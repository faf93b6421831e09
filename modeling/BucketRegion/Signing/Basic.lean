import BucketRegion.Bytes.Utf8
import BucketRegion.Http.Request
import BucketRegion.Url.Reference

/-!
# Signing requests

What both signature protocols share: the headers that take part, and how signing can fail.
-/

set_option autoImplicit false

namespace BucketRegion.Signing

open Http (Request)

/-- The two keys of an account. The secret key may have surrogates in it, which no signature can be
made with. -/
structure Credentials where
  accessKey : String
  secretKey : Text.Loose
  deriving Repr, DecidableEq

/-- Why a request cannot be signed. -/
inductive Problem where
  | noTime
  | noHost
  | port (error : Url.Reference.PortError)
  | url (error : UrlError)
  | key (found : Text.Surrogates)
  | notAscii (problem : Text.NotAscii)
  deriving Repr, DecidableEq

def Problem.message : Problem → String
  | .noTime => "date value out of range"
  | .noHost => "'NoneType' object has no attribute 'split'"
  | .port (.notDecimal shown) =>
      "Port could not be cast to integer value as " ++ Text.quoted shown
  | .port .outOfRange => "Port out of range 0-65535"
  | .url error => error.message
  | .key found => found.message
  | .notAscii found => found.message

/-- A request after signing. If signing failed, headers that were set before the failure stay. -/
structure Outcome where
  request : Request
  problem : Option Problem
  deriving Repr, DecidableEq

namespace Outcome

def failed (request : Request) (problem : Problem) : Outcome := ⟨request, some problem⟩

def done (request : Request) : Outcome := ⟨request, none⟩

/-- Sets a header and goes on, unless it cannot be set. -/
def setting (request : Request) (name value : String) (next : Request → Outcome) : Outcome :=
  match request.set name value with
  | .ok request => next request
  | .error problem => failed request (.notAscii problem)

end Outcome

/-- The headers that can take part in a signature: all but the signature itself. -/
def signable (request : Request) : List (String × String) :=
  request.headers.merged.filter fun line => Text.lower line.1 != "authorization"

/-- Headers with one value put in the place of all lines of a name. -/
def replaceLine (name value : String) (lines : List (String × String)) :
    List (String × String) :=
  lines.filter (fun line => Text.lower line.1 != name) ++ [(name, value)]

end BucketRegion.Signing
