import BucketRegion.Client.Basic
import BucketRegion.Client.Journal
import BucketRegion.Location
import BucketRegion.ServiceError
import BucketRegion.Trace

/-!
# Lookups

A lookup of a bucket goes through phases: it asks the cache, makes a query, sends it, reads the
answer and stores the region. Each phase is one step of the client, so that the steps of several
lookups may alternate. A bucket that is in the cache needs no query, and an anonymous client has
one answer for all buckets. The durations in events are those of a clock that stands still.
-/

set_option autoImplicit false

namespace BucketRegion

/-- Why a lookup has no region. -/
inductive LookupError where
  | query (e : Client.QueryError)
  | send (e : Http.SendError)
  | read (e : Http.Response.ReadError)
  | service (e : ServiceError)
  /-- The document of an error of the service is in an encoding that cannot be read. -/
  | serviceDocument (p : Xml.Problem)
  | location (p : Location.Problem)

namespace LookupError

def message : LookupError → String
  | query e => e.message
  | send e => e.message
  | read (.coding fault) => fault.message
  | read (.failure f) => f.message
  | service e => e.message
  | serviceDocument p => p.message
  | location p => p.message

end LookupError

/-- How far a lookup has come. -/
inductive Phase where
  | begun
  /-- The cache does not hold the bucket. -/
  | missed
  | asking (request : Http.Request)
  | reading (request : Http.Request) (response : Http.Response)
  /-- The service has told the constraint. -/
  | told (constraint : String)
  | ended (result : Except LookupError String)

/-- What one step of a lookup comes to. -/
structure Move where
  client : Client
  phase : Phase
  journal : Journal

namespace Client

/-- The end of the time that a lookup spends on a query. -/
def spanEnd (bucket : String) : Action :=
  .report (Trace.span "resolve_location" (some bucket) 0)

def failed (e : LookupError) : Phase := .ended (.error e)

/-- Asks the cache. -/
def consult (c : Client) (bucket : String) : Move :=
  if c.anonymous then
    ⟨c.count "anonymous_lookups", .ended (.ok Region.default), []⟩
  else
    match c.cache.get? bucket with
    | some region =>
        ⟨c.count "location_cache_hits", .ended (.ok region),
          [.report ⟨"bucketloc.lookup", .debug, "location_cache_hit",
            [("bucket", .text bucket), ("region", .text region)]⟩]⟩
    | none => ⟨c.count "location_cache_misses", .missed, []⟩

/-- Makes the query. -/
def prepare (c : Client) (clock : Calendar.Reading) (bucket : String) : Move :=
  match c.query clock bucket with
  | .error e => ⟨c, failed (.query e), [spanEnd bucket]⟩
  | .ok request => ⟨c.count "location_requests", .asking request, []⟩

/-- What an error on the way to the service or back is counted and reported as; other errors are
neither. -/
def transportTrouble (c : Client) (bucket message : String) (kind : Http.FailureKind) :
    Client × Journal :=
  if kind == .transport then
    (c.count "transport_errors",
      [.report ⟨"bucketloc.lookup", .warning, "location_transport_error",
        [("bucket", .text bucket), ("error", .text message)]⟩])
  else (c, [])

/-- Sends the query. A response that is refused is closed. -/
def ask (c : Client) (transport : Http.Transport) (bucket : String) (request : Http.Request) :
    Move :=
  let exchange := c.session.send transport request
  let c := { c with session := exchange.session }
  let seen := (exchange.sent?.map Action.send).toList ++
    (exchange.received?.map Action.receive).toList
  match exchange.result with
  | .ok response => ⟨c, .reading (exchange.sent?.getD request) response, seen⟩
  | .error e =>
      let (c, trouble) := c.transportTrouble bucket e.message e.kind
      let closing := exchange.received?.toList.map fun _ => Action.close
      ⟨c, failed (.send e), seen ++ closing ++ trouble ++ [spanEnd bucket]⟩

/-- What a body that has been read comes to: the constraint that it tells, or the error that the
status or the document stands for. -/
def judge (bucket : String) (response : Http.Response) (body : Bytes) :
    Except LookupError String :=
  if Http.isSuccess response.status then
    (Location.decode body bucket).mapError .location
  else
    match ServiceError.ofResponse response body bucket "" with
    | .ok e => .error (.service e)
    | .error p => .error (.serviceDocument p)

/-- Documents that hold no location are counted. -/
def countUndecodable (c : Client) : LookupError → Client
  | .location (.undecodable _ _) => c.count "decode_failures"
  | _ => c

/-- Reads the answer. The response is closed whatever comes of it. -/
def readAnswer (c : Client) (bucket : String) (request : Http.Request) (response : Http.Response) :
    Move :=
  match response.content with
  | .error e =>
      let (c, trouble) := c.transportTrouble bucket (LookupError.read e).message e.kind
      ⟨c, failed (.read e), trouble ++ [.close, spanEnd bucket]⟩
  | .ok body =>
      let c := { c with counters := c.counters.incrStatus response.status }
      let result : Action := .report
        (Trace.locationResult bucket request.url.text response.status body.length 0)
      match judge bucket response body with
      | .ok constraint => ⟨c, .told constraint, [result, .close, spanEnd bucket]⟩
      | .error e => ⟨c.countUndecodable e, failed e, [result, .close, spanEnd bucket]⟩

/-- Stores the region that a constraint stands for. -/
def store (c : Client) (bucket constraint : String) : Move :=
  let region := Region.ofConstraint constraint
  ⟨{ c with cache := c.cache.set bucket region }, .ended (.ok region),
    [.report ⟨"bucketloc.lookup", .info, "location_resolved",
      [("bucket", .text bucket), ("constraint", .text constraint), ("region", .text region)]⟩]⟩

/-- One step of a lookup; a lookup that has ended stays as it is. -/
def advance (c : Client) (transport : Http.Transport) (clock : Calendar.Reading)
    (bucket : String) : Phase → Move
  | .begun => c.consult bucket
  | .missed => c.prepare clock bucket
  | .asking request => c.ask transport bucket request
  | .reading request response => c.readAnswer bucket request response
  | .told constraint => c.store bucket constraint
  | .ended result => ⟨c, .ended result, []⟩

end Client

/-- The steps that a lookup has before it at most. -/
def Phase.stepsLeft : Phase → Nat
  | .begun => 5
  | .missed => 4
  | .asking _ => 3
  | .reading _ _ => 2
  | .told _ => 1
  | .ended _ => 0

/-- The result of a lookup that has ended. -/
def Phase.result? : Phase → Option (Except LookupError String)
  | .ended result => some result
  | _ => none

theorem Phase.isSome_result? {phase : Phase} (h : phase.stepsLeft = 0) :
    phase.result?.isSome := by
  cases phase <;> simp_all [stepsLeft, result?]

/-- What a whole operation of a client comes to. -/
structure Outcome (α : Type) where
  client : Client
  result : α
  journal : Journal

/-- The outcome of an operation whose last step leaves none before it. -/
def Move.outcome (move : Move) (h : move.phase.stepsLeft = 0) :
    Outcome (Except LookupError String) :=
  ⟨move.client, move.phase.result?.get (Phase.isSome_result? h), move.journal⟩

namespace Client

theorem stepsLeft_consult (c : Client) (bucket : String) :
    (c.consult bucket).phase.stepsLeft < 5 := by
  unfold consult
  split
  · simp [Phase.stepsLeft]
  · split <;> simp [Phase.stepsLeft]

theorem stepsLeft_prepare (c : Client) (clock : Calendar.Reading) (bucket : String) :
    (c.prepare clock bucket).phase.stepsLeft < 4 := by
  unfold prepare
  split <;> simp [Phase.stepsLeft, failed]

theorem stepsLeft_ask (c : Client) (transport : Http.Transport) (bucket : String)
    (request : Http.Request) : (c.ask transport bucket request).phase.stepsLeft < 3 := by
  unfold ask
  dsimp only
  split <;> simp [Phase.stepsLeft, failed]

theorem stepsLeft_readAnswer (c : Client) (bucket : String) (request : Http.Request)
    (response : Http.Response) :
    (c.readAnswer bucket request response).phase.stepsLeft < 2 := by
  unfold readAnswer
  split
  · simp [Phase.stepsLeft, failed]
  · dsimp only
    split <;> simp [Phase.stepsLeft, failed]

/-- Every step brings a lookup nearer to its end. -/
theorem stepsLeft_advance_le (c : Client) (transport : Http.Transport)
    (clock : Calendar.Reading) (bucket : String) (phase : Phase) :
    (c.advance transport clock bucket phase).phase.stepsLeft ≤ phase.stepsLeft - 1 := by
  cases phase with
  | begun => exact Nat.le_of_lt_succ (stepsLeft_consult c bucket)
  | missed => exact Nat.le_of_lt_succ (stepsLeft_prepare c clock bucket)
  | asking request => exact Nat.le_of_lt_succ (stepsLeft_ask c transport bucket request)
  | reading request response =>
      exact Nat.le_of_lt_succ (stepsLeft_readAnswer c bucket request response)
  | told constraint => simp [advance, store, Phase.stepsLeft]
  | ended result => simp [advance, Phase.stepsLeft]

/-- A number of steps of one lookup, with none of another one between them. -/
def steps (transport : Http.Transport) (clock : Calendar.Reading) (bucket : String) :
    Nat → Client → Phase → Move
  | 0, c, phase => ⟨c, phase, []⟩
  | n + 1, c, phase =>
      let move := c.advance transport clock bucket phase
      let rest := steps transport clock bucket n move.client move.phase
      { rest with journal := move.journal ++ rest.journal }

theorem stepsLeft_steps (transport : Http.Transport) (clock : Calendar.Reading)
    (bucket : String) (n : Nat) (c : Client) (phase : Phase) :
    (steps transport clock bucket n c phase).phase.stepsLeft ≤ phase.stepsLeft - n := by
  induction n generalizing c phase with
  | zero => simp [steps]
  | succ n ih =>
      have first := stepsLeft_advance_le c transport clock bucket phase
      have rest := ih (c.advance transport clock bucket phase).client
        (c.advance transport clock bucket phase).phase
      simp only [steps]
      omega

/-- Five steps bring every lookup to its end. -/
theorem ended_after_five (c : Client) (transport : Http.Transport) (clock : Calendar.Reading)
    (bucket : String) :
    (steps transport clock bucket 5 c .begun).phase.stepsLeft = 0 := by
  have bound := stepsLeft_steps transport clock bucket 5 c .begun
  have start : Phase.begun.stepsLeft - 5 = 0 := rfl
  rw [start] at bound
  exact Nat.eq_zero_of_le_zero bound

/-- Looks up in which region a bucket is. -/
def lookup (c : Client) (transport : Http.Transport) (clock : Calendar.Reading)
    (bucket : String) : Outcome (Except LookupError String) :=
  (steps transport clock bucket 5 c .begun).outcome (ended_after_five c transport clock bucket)

/-- Forgets the region of a bucket, so that the next lookup asks the service. -/
def forget (c : Client) (bucket : String) : Outcome Unit :=
  ⟨{ c with cache := c.cache.delete bucket }, (),
    [.report ⟨"bucketloc.lookup", .info, "location_invalidated", [("bucket", .text bucket)]⟩]⟩

end Client

end BucketRegion
