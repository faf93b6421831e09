import BucketRegion.Http.Content
import BucketRegion.Http.Status

/-!
# Responses

What comes back for a request, and what can go wrong on the way.
-/

set_option autoImplicit false

namespace BucketRegion.Http

/-- How far from this program a failure arises. -/
inductive FailureKind where
  /-- On the way to the service or back. -/
  | transport
  /-- In what the service answers. -/
  | protocol
  /-- Anywhere else. -/
  | other
  deriving Repr, DecidableEq

/-- A failure of a request: its kind, its name and what it says. -/
structure Failure where
  kind : FailureKind
  name : String
  message : String
  deriving Repr, DecidableEq

/-- A response: the octets of its body may end in a failure. -/
structure Response where
  status : Int
  reason : String
  headers : Headers
  body : Bytes
  failure? : Option Failure
  deriving Repr, DecidableEq

namespace Response

/-- A response whose body can be read to its end; the phrase is that of the status if none is
given. Characters beyond ASCII are dropped from a given one. -/
def make (status : Int) (reason? : Option String) (headers : Headers) (body : Bytes) : Response :=
  let reason := match reason? with
    | some reason => String.ofList (reason.toList.filter fun c => c.toNat < 0x80)
    | none => phraseOf status
  ⟨status, reason, headers, body, none⟩

/-- Why the content of a response is not there. -/
inductive ReadError where
  | coding (fault : Compression.Fault)
  | failure (f : Failure)
  deriving Repr, DecidableEq

/-- The content of a response: its body before it was coded. A fault of the coding shows first, if
there are octets at all. -/
def content (r : Response) : Except ReadError Bytes :=
  match r.failure? with
  | none => (Coding.undoAll (Coding.ofHeaders r.headers) r.body).mapError .coding
  | some failure =>
      if r.body.isEmpty then .error (.failure failure)
      else
        match Coding.undoAll (Coding.ofHeaders r.headers) r.body with
        | .error fault => .error (.coding fault)
        | .ok _ => .error (.failure failure)

end Response

end BucketRegion.Http
