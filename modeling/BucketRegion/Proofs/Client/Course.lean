import BucketRegion.Proofs.Client.Steps

/-!
# Whole lookups

How a lookup that nothing interrupts can go, from its beginning to its end, and what of it can be
seen: the requests that reach the transport and what becomes of the cache.
-/

set_option autoImplicit false

namespace BucketRegion

open Http (Transport Request Response)
open Http.Session (authorized)

/-! ## Requests in journals -/

namespace Journal

theorem sent_append (first second : Journal) :
    sent (first ++ second) = first.sent ++ second.sent :=
  List.filterMap_append

@[simp] theorem sent_nil : sent [] = [] := rfl

@[simp] theorem sent_send (request : Request) (rest : Journal) :
    sent (.send request :: rest) = request :: rest.sent := rfl

@[simp] theorem sent_receive (response : Response) (rest : Journal) :
    sent (.receive response :: rest) = rest.sent := rfl

@[simp] theorem sent_close (rest : Journal) : sent (.close :: rest) = rest.sent := rfl

@[simp] theorem sent_report (event : Event) (rest : Journal) :
    sent (.report event :: rest) = rest.sent := rfl

end Journal

namespace Client

@[simp] theorem sent_transportTrouble (c : Client) (bucket message : String)
    (kind : Http.FailureKind) : (c.transportTrouble bucket message kind).2.sent = [] := by
  unfold transportTrouble
  split <;> rfl

variable {transport : Transport} {clock : Calendar.Reading} {bucket : String} {c : Client}

/-- Asking hands the request to the transport once if the client is open, and else not at all. -/
theorem Turn.sent_of_asking {request : Request} {move : Move}
    (turn : Turn transport clock bucket c (.asking request) move) :
    move.journal.sent = if c.session.isOpen then [authorized request] else [] := by
  cases turn with
  | shut closed => simp [closed, spanEnd]
  | unanswered opened => simp [opened, spanEnd, Journal.sent_append]
  | refused opened => simp [opened, spanEnd, Journal.sent_append]
  | answered opened => simp [opened]

theorem Turn.sent_of_reading {request : Request} {response : Response} {move : Move}
    (turn : Turn transport clock bucket c (.reading request response) move) :
    move.journal.sent = [] := by
  cases turn with
  | unread => simp [spanEnd, Journal.sent_append]
  | rejected => simp [spanEnd]
  | accepted => simp [spanEnd]

/-! ## Courses -/

/-- A client that has seen that a bucket is not in its cache, and has a query for it. -/
def queried (c : Client) : Client :=
  (c.count "location_cache_misses").count "location_requests"

/-- How a whole lookup of a bucket can go. -/
inductive Course (transport : Transport) (clock : Calendar.Reading) (bucket : String)
    (c : Client) : Outcome (Except LookupError String) → Prop where
  | anonymous (unsigned : c.anonymous = true) :
      Course transport clock bucket c
        ⟨c.count "anonymous_lookups", .ok Region.default, []⟩
  | cached {region : String} {event : Event} (signed : c.anonymous = false)
      (held : c.cache.get? bucket = some region) :
      Course transport clock bucket c
        ⟨c.count "location_cache_hits", .ok region, [.report event]⟩
  | unqueried {e : QueryError} (signed : c.anonymous = false)
      (absent : c.cache.get? bucket = none) (unbuilt : c.query clock bucket = .error e) :
      Course transport clock bucket c
        ⟨c.count "location_cache_misses", .error (.query e), [spanEnd bucket]⟩
  | unanswered {request : Request} {d : Client} {e : LookupError} {journal : Journal}
      (signed : c.anonymous = false) (absent : c.cache.get? bucket = none)
      (built : c.query clock bucket = .ok request)
      (asked : Turn transport clock bucket c.queried (.asking request) ⟨d, failed e, journal⟩) :
      Course transport clock bucket c ⟨d, .error e, journal⟩
  | rejected {request : Request} {response : Response} {d : Client} {e : LookupError}
      {journal : Journal} (signed : c.anonymous = false) (absent : c.cache.get? bucket = none)
      (built : c.query clock bucket = .ok request) (opened : c.session.isOpen = true)
      (came : transport (authorized request) = .ok response)
      (passed : Http.Redirect.check
        (c.queried.learn (authorized request) response).session.jar (authorized request).url
        response = .ok ())
      (read : Turn transport clock bucket (c.queried.learn (authorized request) response)
        (.reading (authorized request) response) ⟨d, failed e, journal⟩) :
      Course transport clock bucket c
        ⟨d, .error e, .send (authorized request) :: .receive response :: journal⟩
  | resolved {request : Request} {response : Response} {body : Bytes} {constraint : String}
      {d : Client} {journal : Journal} (signed : c.anonymous = false)
      (absent : c.cache.get? bucket = none) (built : c.query clock bucket = .ok request)
      (opened : c.session.isOpen = true) (came : transport (authorized request) = .ok response)
      (passed : Http.Redirect.check
        (c.queried.learn (authorized request) response).session.jar (authorized request).url
        response = .ok ())
      (whole : response.content = .ok body)
      (judged : judge bucket response body = .ok constraint) (make : SameMake c d)
      (cache : d.cache = c.cache.set bucket (Region.ofConstraint constraint))
      (unsent : journal.sent = []) :
      Course transport clock bucket c
        ⟨d, .ok (Region.ofConstraint constraint),
          .send (authorized request) :: .receive response :: journal⟩

/-- What a lookup that has come to a phase comes to in the end. -/
inductive Comes (transport : Transport) (clock : Calendar.Reading) (bucket : String) :
    Client → Phase → Outcome (Except LookupError String) → Prop where
  | ended {c : Client} {result : Except LookupError String} :
      Comes transport clock bucket c (.ended result) ⟨c, result, []⟩
  | step {c : Client} {phase : Phase} {move : Move}
      {outcome : Outcome (Except LookupError String)}
      (turn : Turn transport clock bucket c phase move)
      (rest : Comes transport clock bucket move.client move.phase outcome) :
      Comes transport clock bucket c phase
        ⟨outcome.client, outcome.result, move.journal ++ outcome.journal⟩

theorem Comes.of_ended {result : Except LookupError String}
    {outcome : Outcome (Except LookupError String)}
    (comes : Comes transport clock bucket c (.ended result) outcome) :
    outcome = ⟨c, result, []⟩ := by
  -- The induction is on a hypothesis whose phase has to be a variable.
  generalize there : Phase.ended result = phase at comes
  induction comes with
  | ended =>
      cases there
      rfl
  | step turn rest ih =>
      subst there
      cases turn
      simp [ih rfl]

private theorem comes_steps (transport : Transport) (clock : Calendar.Reading) (bucket : String)
    (n : Nat) (c : Client) (phase : Phase) (enough : phase.stepsLeft ≤ n) :
    ∃ result, (steps transport clock bucket n c phase).phase = .ended result ∧
      Comes transport clock bucket c phase
        ⟨(steps transport clock bucket n c phase).client, result,
          (steps transport clock bucket n c phase).journal⟩ := by
  induction n generalizing c phase with
  | zero =>
      cases phase with
      | ended result => exact ⟨result, rfl, .ended⟩
      | _ => simp [Phase.stepsLeft] at enough
  | succ n ih =>
      have nearer := stepsLeft_advance_le c transport clock bucket phase
      have turn := turn_advance transport clock bucket c phase
      obtain ⟨result, ends, comes⟩ := ih (c.advance transport clock bucket phase).client
        (c.advance transport clock bucket phase).phase (by omega)
      exact ⟨result, ends, .step turn comes⟩

private theorem eq_outcome (move : Move) (last : move.phase.stepsLeft = 0) :
    move = ⟨(move.outcome last).client, .ended (move.outcome last).result,
      (move.outcome last).journal⟩ := by
  obtain ⟨d, phase, journal⟩ := move
  cases phase with
  | ended result => rfl
  | _ => cases last

/-- A lookup is what five of its steps come to. -/
theorem steps_five (transport : Transport) (clock : Calendar.Reading) (bucket : String)
    (c : Client) :
    steps transport clock bucket 5 c .begun =
      ⟨(c.lookup transport clock bucket).client,
        .ended (c.lookup transport clock bucket).result,
        (c.lookup transport clock bucket).journal⟩ :=
  eq_outcome _ (ended_after_five c transport clock bucket)

/-- Three steps bring a lookup of a bucket that is not in the cache to a response. -/
theorem steps_three (transport : Transport) (clock : Calendar.Reading) (bucket : String)
    (c : Client) {request : Request} {response : Response} (signed : c.anonymous = false)
    (absent : c.cache.get? bucket = none) (built : c.query clock bucket = .ok request)
    (opened : c.session.isOpen = true) (came : transport (authorized request) = .ok response)
    (passed : Http.Redirect.check (c.queried.learn (authorized request) response).session.jar
      (authorized request).url response = .ok ()) :
    steps transport clock bucket 3 c .begun =
      ⟨c.queried.learn (authorized request) response, .reading (authorized request) response,
        [.send (authorized request), .receive response]⟩ := by
  have queried : (c.count "location_cache_misses").advance transport clock bucket .missed =
      ⟨c.queried, .asking request, []⟩ := advance_of_query built
  have answered : c.queried.advance transport clock bucket (.asking request) =
      ⟨c.queried.learn (authorized request) response, .reading (authorized request) response,
        [.send (authorized request), .receive response]⟩ :=
    advance_of_response opened came passed
  simp only [steps, advance_of_absent signed absent, queried, answered]
  rfl

theorem comes_lookup (transport : Transport) (clock : Calendar.Reading) (bucket : String)
    (c : Client) :
    Comes transport clock bucket c .begun (c.lookup transport clock bucket) := by
  obtain ⟨result, ends, comes⟩ := comes_steps transport clock bucket 5 c .begun
    (Nat.le_refl 5)
  rw [steps_five] at ends comes
  cases ends
  exact comes

private theorem course_of_reading {request : Request} {response : Response}
    {outcome : Outcome (Except LookupError String)} (signed : c.anonymous = false)
    (absent : c.cache.get? bucket = none) (built : c.query clock bucket = .ok request)
    (opened : c.session.isOpen = true) (came : transport (authorized request) = .ok response)
    (passed : Http.Redirect.check (c.queried.learn (authorized request) response).session.jar
      (authorized request).url response = .ok ())
    (comes : Comes transport clock bucket (c.queried.learn (authorized request) response)
      (.reading (authorized request) response) outcome) :
    Course transport clock bucket c
      ⟨outcome.client, outcome.result,
        .send (authorized request) :: .receive response :: outcome.journal⟩ := by
  cases comes with
  | @step _ _ move last turn rest =>
      obtain ⟨d, phase, journal⟩ := move
      obtain ⟨e, failing⟩ | ⟨constraint, told⟩ := turn.of_reading
      · cases failing
        cases rest.of_ended
        simp only [List.append_nil]
        exact .rejected signed absent built opened came passed turn
      · cases told
        cases rest with
        | @step _ _ _ _ store rest =>
            cases store
            cases rest.of_ended
            cases turn with
            | accepted whole judged =>
                exact .resolved signed absent built opened came passed whole judged
                  ⟨rfl, rfl, rfl, rfl⟩ rfl rfl

/-- Every lookup goes one of these ways. -/
theorem course_lookup (transport : Transport) (clock : Calendar.Reading) (bucket : String)
    (c : Client) : Course transport clock bucket c (c.lookup transport clock bucket) := by
  have comes := comes_lookup transport clock bucket c
  generalize c.lookup transport clock bucket = outcome at comes
  cases comes with
  | step turn rest =>
      cases turn with
      | anonymous unsigned =>
          cases rest.of_ended
          exact .anonymous unsigned
      | cached signed held =>
          cases rest.of_ended
          exact .cached signed held
      | missed signed absent =>
          cases rest with
          | step turn rest =>
              cases turn with
              | unqueried unbuilt =>
                  cases rest.of_ended
                  exact .unqueried signed absent unbuilt
              | queried built =>
                  cases rest with
                  | @step _ _ move last turn rest =>
                      obtain ⟨d, phase, journal⟩ := move
                      obtain ⟨e, failing⟩ | ⟨sent, response, answered⟩ := turn.of_asking
                      · cases failing
                        cases rest.of_ended
                        simp only [List.nil_append, List.append_nil]
                        exact .unanswered signed absent built turn
                      · cases answered
                        cases turn with
                        | answered opened came passed =>
                            exact course_of_reading signed absent built opened came passed rest

end Client

end BucketRegion
