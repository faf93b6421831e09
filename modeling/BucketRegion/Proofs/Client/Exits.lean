import BucketRegion.Proofs.Client.Accounts
import BucketRegion.Proofs.Client.Cookies
import BucketRegion.Proofs.Client.Fate

/-!
# How lookups leave a client

A lookup fails at one of several points, and the error it comes to is that of this point. Whatever
the error, the cache stays as it was and the next lookup of the bucket misses it again. No lookup,
failed or not, leaves a response open.
-/

set_option autoImplicit false

namespace BucketRegion

open Http (Transport Request Response)
open Http.Session (authorized)

/-! ## What the parts of an answer fail with -/

namespace Http.Response

variable {response : Response}

theorem content_eq_error_iff {e : ReadError} :
    response.content = .error e ↔
      (∃ fault, Coding.undoAll (Coding.ofHeaders response.headers) response.body = .error fault ∧
        (response.failure? = none ∨ response.body ≠ []) ∧ .coding fault = e) ∨
      ∃ f, response.failure? = some f ∧ (response.body = [] ∨ ∃ octets,
        Coding.undoAll (Coding.ofHeaders response.headers) response.body = .ok octets) ∧
          .failure f = e := by
  unfold content
  cases response.failure? with
  | none => simp [mapError_eq_error]
  | some failure =>
      by_cases empty : response.body = []
      · simp [empty]
      · cases Coding.undoAll (Coding.ofHeaders response.headers) response.body <;> simp [empty]

end Http.Response

theorem Location.decode_eq_error_iff {body : Bytes} {bucket : String} {p : Problem} :
    decode body bucket = .error p ↔ body.all Text.isAsciiBlank = false ∧
      ∃ problem, Xml.parse body = .error problem ∧
        p = if problem.isMalformed then .undecodable bucket problem.message
          else .encoding problem := by
  unfold decode
  cases blank : body.all Text.isAsciiBlank with
  | true => simp
  | false =>
      cases parsed : Xml.parse body with
      | ok root => simp
      | error problem =>
          simp only [Bool.false_eq_true, if_false, true_and, Except.error.injEq, exists_eq_left']
          split <;> exact ⟨fun same => (Except.error.inj same).symm, congrArg _ ∘ Eq.symm⟩

theorem ServiceError.ofResponse_eq_error_iff {response : Response} {body : Bytes}
    {bucket object : String} {p : Xml.Problem} :
    ofResponse response body bucket object = .error p ↔
      body ≠ [] ∧ Xml.parse body = .error p ∧ p.isMalformed = false := by
  unfold ofResponse
  rw [map_eq_error]
  unfold readTexts?
  by_cases empty : body = []
  · simp [empty]
  · cases parsed : Xml.parse body with
    | ok root => simp [empty]
    | error problem =>
        cases malformed : problem.isMalformed with
        | true =>
            simp only [List.isEmpty_iff, empty, if_false, malformed, if_true]
            refine iff_of_false (by simp) ?_
            rintro ⟨_, same, other⟩
            cases same
            rw [malformed] at other
            cases other
        | false =>
            simp only [List.isEmpty_iff, empty, if_false, malformed]
            constructor
            · intro same
              cases same
              exact ⟨empty, rfl, malformed⟩
            · rintro ⟨_, same, _⟩
              cases same
              rfl

theorem Journal.closedAfter_append (closed : List Bool) (first second : Journal) :
    closedAfter closed (first ++ second) = closedAfter (closedAfter closed first) second := by
  induction first generalizing closed with
  | nil => rfl
  | cons action rest ih => cases action <;> exact ih _

/-- The responses that a lookup in this phase holds, none of them closed. -/
def Phase.unclosed : Phase → List Bool
  | .reading _ _ => [false]
  | _ => []

/-- Whether a call is a lookup of this bucket. -/
def Call.looksUp (bucket : String) : Call → Bool
  | .lookup _ _ asked => asked == bucket
  | _ => false

namespace Client

/-! ## Points of failure -/

/-- A lookup that asks the service gets this response, and goes on to read it. -/
structure Obtains (transport : Transport) (clock : Calendar.Reading) (bucket : String) (c : Client)
    (request : Request) (response : Response) : Prop where
  built : c.query clock bucket = .ok request
  opened : c.session.isOpen = true
  came : transport (authorized request) = .ok response
  passed : Http.Redirect.check (c.learn (authorized request) response).session.jar
    (authorized request).url response = .ok ()

/-- Where a lookup that asks the service can fail, and with what. Errors are those of the point of
failure, but for documents that break a rule and for answers that are no success. -/
inductive Fails (transport : Transport) (clock : Calendar.Reading) (bucket : String)
    (c : Client) : LookupError → Prop where
  | unnamed {e : UrlError} (unnamed : Endpoint.locationUrl c.endpoint bucket = .error e) :
      Fails transport clock bucket c (.query (.request (.url e)))
  | unbuilt {url : Url} {e : Http.RequestError}
      (named : Endpoint.locationUrl c.endpoint bucket = .ok url)
      (unbuilt : c.session.request url = .error e) :
      Fails transport clock bucket c (.query (.request e))
  | unsigned {plain : Request} {p : Signing.Problem}
      (built : c.unsignedQuery bucket = .ok plain)
      (unsigned : (c.signer.sign clock Region.default plain).problem = some p) :
      Fails transport clock bucket c (.query (.signing p))
  | shut {request : Request} (built : c.query clock bucket = .ok request)
      (closed : c.session.isOpen = false) : Fails transport clock bucket c (.send .closed)
  | unanswered {request : Request} {f : Http.Failure}
      (built : c.query clock bucket = .ok request) (opened : c.session.isOpen = true)
      (lost : transport (authorized request) = .error f) :
      Fails transport clock bucket c (.send (.failure f))
  | astray {request : Request} {response : Response} {p : Http.Redirect.Problem}
      (built : c.query clock bucket = .ok request) (opened : c.session.isOpen = true)
      (came : transport (authorized request) = .ok response)
      (astray : Http.Redirect.check (c.learn (authorized request) response).session.jar
        (authorized request).url response = .error p) :
      Fails transport clock bucket c (.send (.redirect p))
  | miscoded {request : Request} {response : Response} {fault : Compression.Fault}
      (obtained : Obtains transport clock bucket c request response)
      (miscoded : Http.Coding.undoAll (Http.Coding.ofHeaders response.headers) response.body = .error fault)
      (read : response.failure? = none ∨ response.body ≠ []) :
      Fails transport clock bucket c (.read (.coding fault))
  | broken {request : Request} {response : Response} {f : Http.Failure}
      (obtained : Obtains transport clock bucket c request response)
      (broken : response.failure? = some f)
      (coded : response.body = [] ∨ ∃ octets,
        Http.Coding.undoAll (Http.Coding.ofHeaders response.headers) response.body = .ok octets) :
      Fails transport clock bucket c (.read (.failure f))
  | refused {request : Request} {response : Response} {body : Bytes} {e : ServiceError}
      (obtained : Obtains transport clock bucket c request response)
      (whole : response.content = .ok body) (failure : Http.isSuccess response.status = false)
      (told : ServiceError.ofResponse response body bucket "" = .ok e) :
      Fails transport clock bucket c (.service e)
  | untold {request : Request} {response : Response} {body : Bytes} {p : Xml.Problem}
      (obtained : Obtains transport clock bucket c request response)
      (whole : response.content = .ok body) (failure : Http.isSuccess response.status = false)
      (filled : body ≠ []) (unread : Xml.parse body = .error p) (formed : p.isMalformed = false) :
      Fails transport clock bucket c (.serviceDocument p)
  | undecodable {request : Request} {response : Response} {body : Bytes} {p : Xml.Problem}
      (obtained : Obtains transport clock bucket c request response)
      (whole : response.content = .ok body) (success : Http.isSuccess response.status = true)
      (filled : body.all Text.isAsciiBlank = false) (unread : Xml.parse body = .error p)
      (malformed : p.isMalformed = true) :
      Fails transport clock bucket c (.location (.undecodable bucket p.message))
  | unreadable {request : Request} {response : Response} {body : Bytes} {p : Xml.Problem}
      (obtained : Obtains transport clock bucket c request response)
      (whole : response.content = .ok body) (success : Http.isSuccess response.status = true)
      (filled : body.all Text.isAsciiBlank = false) (unread : Xml.parse body = .error p)
      (formed : p.isMalformed = false) :
      Fails transport clock bucket c (.location (.encoding p))

variable {transport : Transport} {clock : Calendar.Reading} {bucket : String} {c : Client}
  {request : Request} {response : Response} {e : LookupError}

theorem unsignedQuery_eq_error_iff {q : QueryError} :
    c.unsignedQuery bucket = .error q ↔
      (∃ fault, Endpoint.locationUrl c.endpoint bucket = .error fault ∧
        q = .request (.url fault)) ∨
      ∃ url fault, Endpoint.locationUrl c.endpoint bucket = .ok url ∧
        c.session.request url = .error fault ∧ q = .request fault := by
  unfold unsignedQuery
  rw [bind_eq_error]
  refine or_congr ?_ ?_
  · rw [mapError_eq_error]
    exact exists_congr fun fault => and_congr_right fun _ => eq_comm
  · refine exists_congr fun url => ?_
    rw [mapError_eq_ok, mapError_eq_error, exists_and_left]
    refine and_congr_right fun _ => exists_congr fun fault => and_congr_right fun _ => eq_comm

theorem query_eq_error_iff (signed : c.anonymous = false) {q : QueryError} :
    c.query clock bucket = .error q ↔ c.unsignedQuery bucket = .error q ∨
      ∃ plain p, c.unsignedQuery bucket = .ok plain ∧
        (c.signer.sign clock Region.default plain).problem = some p ∧ q = .signing p := by
  unfold query
  rw [bind_eq_error]
  refine or_congr Iff.rfl (exists_congr fun plain => ?_)
  simp only [signed, Bool.false_eq_true, if_false]
  cases (c.signer.sign clock Region.default plain).problem with
  | none => simp [pure, Except.pure]
  | some p => simp [eq_comm]

theorem fails_of_query {q : QueryError} (signed : c.anonymous = false)
    (unqueried : c.query clock bucket = .error q) : Fails transport clock bucket c (.query q) := by
  rcases (query_eq_error_iff signed).mp unqueried with unbuilt | ⟨plain, p, built, unsigned, rfl⟩
  · rcases unsignedQuery_eq_error_iff.mp unbuilt with
      ⟨fault, unnamed, rfl⟩ | ⟨url, fault, named, refused, rfl⟩
    · exact .unnamed unnamed
    · exact .unbuilt named refused
  · exact .unsigned built unsigned

theorem fails_or_obtains (transport : Transport) (built : c.query clock bucket = .ok request) :
    (∃ fault, (c.session.send transport request).result = .error fault ∧
        Fails transport clock bucket c (.send fault)) ∨
      ∃ response, (c.session.send transport request).result = .ok response ∧
        Obtains transport clock bucket c request response := by
  cases opened : c.session.isOpen with
  | false =>
      rw [Http.Session.send_of_closed opened]
      exact .inl ⟨_, rfl, .shut built opened⟩
  | true =>
      cases came : transport (authorized request) with
      | error f =>
          rw [Http.Session.send_of_failure opened came]
          exact .inl ⟨_, rfl, .unanswered built opened came⟩
      | ok response =>
          cases checked : Http.Redirect.check (c.learn (authorized request) response).session.jar
              (authorized request).url response with
          | error p =>
              rw [Http.Session.send_of_problem opened came checked]
              exact .inl ⟨_, rfl, .astray built opened came checked⟩
          | ok done =>
              rw [Http.Session.send_of_response c.session opened came checked]
              exact .inr ⟨_, rfl, built, opened, came, checked⟩

theorem Obtains.fails_of_content (obtained : Obtains transport clock bucket c request response)
    {fault : Response.ReadError} (unread : response.content = .error fault) :
    Fails transport clock bucket c (.read fault) := by
  rcases Http.Response.content_eq_error_iff.mp unread with
    ⟨fault, miscoded, read, rfl⟩ | ⟨f, broken, coded, rfl⟩
  · exact .miscoded obtained miscoded read
  · exact .broken obtained broken coded

theorem Obtains.fails_of_judge (obtained : Obtains transport clock bucket c request response)
    {body : Bytes} (whole : response.content = .ok body)
    (judged : judge bucket response body = .error e) : Fails transport clock bucket c e := by
  unfold judge at judged
  split at judged
  · next success =>
      obtain ⟨p, undecoded, rfl⟩ := mapError_eq_error.mp judged
      obtain ⟨filled, problem, unread, rfl⟩ := Location.decode_eq_error_iff.mp undecoded
      cases malformed : problem.isMalformed with
      | true => exact .undecodable obtained whole success filled unread malformed
      | false => exact .unreadable obtained whole success filled unread malformed
  · next failure =>
      have failure : Http.isSuccess response.status = false := Bool.eq_false_iff.mpr failure
      split at judged
      · next told =>
          cases judged
          exact .refused obtained whole failure told
      · next untold =>
          cases judged
          obtain ⟨filled, unread, formed⟩ := ServiceError.ofResponse_eq_error_iff.mp untold
          exact .untold obtained whole failure filled unread formed

theorem Obtains.verdict_eq (obtained : Obtains transport clock bucket c request response) :
    c.verdict transport clock bucket =
      response.content.mapError LookupError.read >>= fun body =>
        (judge bucket response body).map Region.ofConstraint := by
  have answered : (c.session.send transport request).result = .ok response := by
    rw [Http.Session.send_of_response c.session obtained.opened obtained.came obtained.passed]
  simp only [verdict, obtained.built, mapError_ok, bind, Except.bind, answered]

theorem Obtains.verdict_of_judge (obtained : Obtains transport clock bucket c request response)
    {body : Bytes} (whole : response.content = .ok body)
    (judged : judge bucket response body = .error e) :
    c.verdict transport clock bucket = .error e := by
  rw [obtained.verdict_eq, whole]
  simp only [mapError_ok, bind, Except.bind, judged, Except.map]

theorem verdict_of_query {q : QueryError} (unqueried : c.query clock bucket = .error q) :
    c.verdict transport clock bucket = .error (.query q) := by
  simp only [verdict, unqueried, mapError_error, bind, Except.bind]

theorem verdict_of_send {fault : Http.SendError} (built : c.query clock bucket = .ok request)
    (unsent : (c.session.send transport request).result = .error fault) :
    c.verdict transport clock bucket = .error (.send fault) := by
  simp only [verdict, built, mapError_ok, unsent, mapError_error, bind, Except.bind]

theorem Fails.verdict_eq (fails : Fails transport clock bucket c e) (signed : c.anonymous = false) :
    c.verdict transport clock bucket = .error e := by
  cases fails with
  | unnamed unnamed =>
      have unbuilt := unsignedQuery_eq_error_iff.mpr (.inl ⟨_, unnamed, rfl⟩)
      exact verdict_of_query ((query_eq_error_iff signed).mpr (.inl unbuilt))
  | unbuilt named unbuilt =>
      have unbuilt := unsignedQuery_eq_error_iff.mpr (.inr ⟨_, _, named, unbuilt, rfl⟩)
      exact verdict_of_query ((query_eq_error_iff signed).mpr (.inl unbuilt))
  | unsigned built unsigned =>
      exact verdict_of_query ((query_eq_error_iff signed).mpr
        (.inr ⟨_, _, built, unsigned, rfl⟩))
  | shut built closed =>
      exact verdict_of_send built (by rw [Http.Session.send_of_closed closed])
  | unanswered built opened lost =>
      exact verdict_of_send built (by rw [Http.Session.send_of_failure opened lost])
  | astray built opened came astray =>
      exact verdict_of_send built (by rw [Http.Session.send_of_problem opened came astray])
  | miscoded obtained miscoded read =>
      have unread := Http.Response.content_eq_error_iff.mpr (.inl ⟨_, miscoded, read, rfl⟩)
      rw [obtained.verdict_eq, unread]
      rfl
  | broken obtained broken coded =>
      have unread := Http.Response.content_eq_error_iff.mpr (.inr ⟨_, broken, coded, rfl⟩)
      rw [obtained.verdict_eq, unread]
      rfl
  | refused obtained whole failure told =>
      refine obtained.verdict_of_judge whole ?_
      simp only [judge, failure, Bool.false_eq_true, if_false, told]
  | @untold _ response body p obtained whole failure filled unread formed =>
      refine obtained.verdict_of_judge whole ?_
      have mapped : ServiceError.ofResponse response body bucket "" = .error p :=
        ServiceError.ofResponse_eq_error_iff.mpr ⟨filled, unread, formed⟩
      simp only [judge, failure, Bool.false_eq_true, if_false, mapped]
  | @undecodable _ response body p obtained whole success filled unread malformed =>
      refine obtained.verdict_of_judge whole ?_
      have undecoded : Location.decode body bucket =
          .error (.undecodable bucket p.message) :=
        Location.decode_eq_error_iff.mpr ⟨filled, p, unread, by rw [malformed, if_pos rfl]⟩
      simp only [judge, success, if_true, undecoded, mapError_error]
  | @unreadable _ response body p obtained whole success filled unread formed =>
      refine obtained.verdict_of_judge whole ?_
      have undecoded : Location.decode body bucket = .error (.encoding p) :=
        Location.decode_eq_error_iff.mpr
          ⟨filled, p, unread, by rw [formed, if_neg Bool.false_ne_true]⟩
      simp only [judge, success, if_true, undecoded, mapError_error]

theorem fails_of_verdict (signed : c.anonymous = false)
    (failing : c.verdict transport clock bucket = .error e) :
    Fails transport clock bucket c e := by
  cases built : c.query clock bucket with
  | error q =>
      rw [verdict_of_query built] at failing
      cases failing
      exact fails_of_query signed built
  | ok request =>
      rcases fails_or_obtains transport built with
        ⟨fault, unsent, fails⟩ | ⟨response, _, obtained⟩
      · rw [verdict_of_send built unsent] at failing
        cases failing
        exact fails
      · rw [obtained.verdict_eq] at failing
        rcases bind_eq_error.mp failing with told | ⟨body, whole, failing⟩
        · obtain ⟨fault, unread, rfl⟩ := mapError_eq_error.mp told
          exact obtained.fails_of_content unread
        · exact obtained.fails_of_judge (mapError_eq_ok.mp whole) (map_eq_error.mp failing)

theorem Course.error_iff {outcome : Outcome (Except LookupError String)}
    (course : Course transport clock bucket c outcome) :
    outcome.result = .error e ↔ c.Lacks bucket ∧ Fails transport clock bucket c e := by
  constructor
  · intro failing
    have lacks : c.Lacks bucket := by
      cases course with
      | anonymous => cases failing
      | cached => cases failing
      | unqueried signed absent => exact ⟨signed, absent⟩
      | unanswered signed absent => exact ⟨signed, absent⟩
      | rejected signed absent => exact ⟨signed, absent⟩
      | resolved => cases failing
    rw [course.result_eq lacks.signed lacks.absent] at failing
    exact ⟨lacks, fails_of_verdict lacks.signed failing⟩
  · rintro ⟨lacks, fails⟩
    rw [course.result_eq lacks.signed lacks.absent]
    exact fails.verdict_eq lacks.signed

/-! ## Responses -/

section Responses

variable {phase : Phase} {move : Move} {outcome : Outcome (Except LookupError String)}

@[simp] theorem closedAfter_transportTrouble (c : Client) (bucket message : String)
    (kind : Http.FailureKind) (closed : List Bool) :
    Journal.closedAfter closed (c.transportTrouble bucket message kind).2 = closed := by
  unfold transportTrouble
  split <;> rfl

theorem Turn.received_eq (turn : Turn transport clock bucket c phase move) :
    move.journal.received =
      move.journal.sent.filterMap fun request => (transport request).toOption := by
  cases turn with
  | unanswered _ lost =>
      simp [Journal.sent_append, Journal.received_append, spanEnd, lost, Except.toOption]
  | refused _ came =>
      simp [Journal.sent_append, Journal.received_append, spanEnd, came, Except.toOption]
  | answered _ came => simp [came, Except.toOption]
  | unread => simp [Journal.sent_append, Journal.received_append, spanEnd]
  | _ => rfl

theorem Turn.closedAfter_eq (turn : Turn transport clock bucket c phase move)
    (closed : List Bool) : ∃ n,
      Journal.closedAfter (phase.unclosed ++ closed) move.journal =
        move.phase.unclosed ++ (List.replicate n true ++ closed) ∧
      move.phase.unclosed.length + n = phase.unclosed.length + move.journal.received.length := by
  cases turn with
  | unanswered =>
      refine ⟨0, ?_, by simp [failed, Phase.unclosed, spanEnd, Journal.received_append]⟩
      simp [failed, Phase.unclosed, Journal.closedAfter, Journal.closedAfter_append, spanEnd]
  | refused =>
      refine ⟨1, ?_, by simp [failed, Phase.unclosed, spanEnd, Journal.received_append]⟩
      simp [failed, Phase.unclosed, Journal.closedAfter, Journal.closedAfter_append, spanEnd]
  | answered => exact ⟨0, rfl, rfl⟩
  | unread =>
      refine ⟨1, ?_, by simp [failed, Phase.unclosed, spanEnd, Journal.received_append]⟩
      simp [failed, Phase.unclosed, Journal.closedAfter, Journal.closedAfter_append, spanEnd]
  | rejected => exact ⟨1, rfl, rfl⟩
  | accepted => exact ⟨1, rfl, rfl⟩
  | _ => exact ⟨0, rfl, rfl⟩

theorem Comes.received_eq (comes : Comes transport clock bucket c phase outcome) :
    outcome.journal.received =
      outcome.journal.sent.filterMap fun request => (transport request).toOption := by
  induction comes with
  | ended => rfl
  | step turn rest ih =>
      rw [Journal.received_append, Journal.sent_append, List.filterMap_append, turn.received_eq,
        ih]

theorem Comes.closedAfter_eq (comes : Comes transport clock bucket c phase outcome)
    (closed : List Bool) :
    Journal.closedAfter (phase.unclosed ++ closed) outcome.journal =
      List.replicate (phase.unclosed.length + outcome.journal.received.length) true ++ closed := by
  induction comes generalizing closed with
  | @ended c result => rfl
  | @step c phase move outcome turn rest ih =>
      -- What the step leaves open is what the rest begins with.
      obtain ⟨n, closes, number⟩ := turn.closedAfter_eq closed
      have total : move.phase.unclosed.length + outcome.journal.received.length + n =
          phase.unclosed.length + (move.journal ++ outcome.journal).received.length := by
        rw [Journal.received_append, List.length_append]
        omega
      rw [Journal.closedAfter_append, closes, ih, ← List.append_assoc,
        List.replicate_append_replicate, total]

theorem Comes.closed_eq (comes : Comes transport clock bucket c .begun outcome) :
    outcome.journal.closed = outcome.journal.received.map fun _ => true := by
  have closes := comes.closedAfter_eq []
  simp only [Phase.unclosed, List.length_nil, Nat.zero_add, List.append_nil] at closes
  rw [Journal.closed, closes, List.reverse_replicate, List.map_const']

end Responses

/-! ## The next lookup -/

theorem not_mem_of_counted {before after : Phase} {names : List String}
    (counted : Counted before after names) (later : before.stepsLeft ≤ 4) {name : String}
    (named : name = "location_cache_hits" ∨ name = "location_cache_misses") : name ∉ names := by
  have plain : Counters.isStatusName name = false := by
    rcases named with rfl | rfl <;> decide
  have different : ∀ other, Counters.isStatusName other = true → name ≠ other := by
    rintro other status rfl
    rw [plain] at status
    cases status
  cases counted with
  | anonymous => simp [Phase.stepsLeft] at later
  | cached => simp [Phase.stepsLeft] at later
  | missed => simp [Phase.stepsLeft] at later
  | service status => simpa using different _ status
  | serviceDocument status => simpa using different _ status
  | _ => rcases named with rfl | rfl <;> decide

theorem get_incrAll_of_not_mem {names : List String} {name : String} (absent : name ∉ names)
    (counters : Counters) : (counters.incrAll names).get name = counters.get name := by
  induction names generalizing counters with
  | nil => rfl
  | cons first rest ih =>
      obtain ⟨different, absent⟩ := List.ne_and_not_mem_of_not_mem_cons absent
      have counted := ih absent (counters.incr first)
      rw [Counters.get_incr, if_neg different] at counted
      exact counted

theorem Turn.stepsLeft_le {phase : Phase} {move : Move}
    (turn : Turn transport clock bucket c phase move) :
    move.phase.stepsLeft ≤ phase.stepsLeft := by
  cases turn <;> simp [Phase.stepsLeft, failed]

theorem Comes.get_eq {phase : Phase} {outcome : Outcome (Except LookupError String)}
    (comes : Comes transport clock bucket c phase outcome) (later : phase.stepsLeft ≤ 4)
    {name : String} (named : name = "location_cache_hits" ∨ name = "location_cache_misses") :
    outcome.client.counters.get name = c.counters.get name := by
  induction comes with
  | ended => rfl
  | step turn rest ih =>
      obtain ⟨names, counted, counters⟩ := turn.counted
      rw [ih (turn.stepsLeft_le.trans later), counters]
      exact get_incrAll_of_not_mem (not_mem_of_counted counted later named) _

/-- A lookup that misses the cache and goes to the service for an answer. A query that is not made,
or a closed client, keeps it from getting there. -/
structure Misses (transport : Transport) (clock : Calendar.Reading) (bucket : String) (c : Client)
    (outcome : Outcome (Except LookupError String)) : Prop where
  absent : c.cache.get? bucket = none
  missed : outcome.client.counters.get "location_cache_misses" =
    c.counters.get "location_cache_misses" + 1
  unhit : outcome.client.counters.get "location_cache_hits" =
    c.counters.get "location_cache_hits"
  result : outcome.result = c.verdict transport clock bucket
  sent : outcome.journal.sent =
    if c.session.isOpen then (c.query clock bucket).toOption.toList.map authorized else []

theorem Lacks.comes (lacks : c.Lacks bucket) (transport : Transport) (clock : Calendar.Reading) :
    Comes transport clock bucket (c.count "location_cache_misses") .missed
      (c.lookup transport clock bucket) := by
  have comes := comes_lookup transport clock bucket c
  generalize c.lookup transport clock bucket = outcome at comes
  cases comes with
  | step turn rest =>
      cases turn with
      | anonymous unsigned => simp [lacks.signed] at unsigned
      | cached _ held => simp [lacks.absent] at held
      | missed => exact rest

theorem Lacks.misses (lacks : c.Lacks bucket) (transport : Transport) (clock : Calendar.Reading) :
    Misses transport clock bucket c (c.lookup transport clock bucket) := by
  have course := course_lookup transport clock bucket c
  have comes := lacks.comes transport clock
  refine ⟨lacks.absent, ?_, ?_, course.result_eq lacks.signed lacks.absent,
    course.sent_eq lacks.signed lacks.absent⟩
  · rw [comes.get_eq (Nat.le_refl 4) (.inr rfl)]
    simp [count, Counters.get_incr]
  · rw [comes.get_eq (Nat.le_refl 4) (.inl rfl)]
    simp [count, Counters.get_incr]

theorem Lacks.perform (lacks : c.Lacks bucket) {call : Call} (other : call.looksUp bucket = false) :
    (c.perform call).1.Lacks bucket := by
  refine ⟨(kept_perform c call).2.trans lacks.signed, ?_⟩
  cases call with
  | lookup transport clock asked =>
      have different : (Call.lookup transport clock asked).bucket? ≠ some bucket := by
        simpa [Call.bucket?, Call.looksUp] using other
      rw [get?_perform_of_other c different]
      exact lacks.absent
  | forget asked =>
      simp only [Client.perform, forget, LocationCache.get?_delete]
      split
      · rfl
      · exact lacks.absent
  | close => exact lacks.absent

theorem Lacks.run (lacks : c.Lacks bucket) {calls : List Call}
    (others : ∀ call ∈ calls, call.looksUp bucket = false) : (c.run calls).1.Lacks bucket := by
  induction calls using List.reverseRecOn with
  | nil => exact lacks
  | append_singleton calls call ih =>
      rw [run_snoc]
      have before := ih fun call member => others call (List.mem_append_left _ member)
      exact before.perform (others call (by simp))

/-- How a lookup of a bucket leaves a client, whatever it comes to. -/
structure LeavesIntact (transport : Transport) (clock : Calendar.Reading) (bucket : String)
    (c : Client) (outcome : Outcome (Except LookupError String)) : Prop where
  error_iff : ∀ e, outcome.result = .error e ↔
    c.Lacks bucket ∧ Fails transport clock bucket c e
  kept : ∀ e, outcome.result = .error e → outcome.client.cache = c.cache
  /-- What is called between a failed lookup and the next one of the bucket does not matter. -/
  again : ∀ e, outcome.result = .error e → ∀ calls : List Call,
    (∀ call ∈ calls, call.looksUp bucket = false) → ∀ transport clock,
      Misses transport clock bucket (outcome.client.run calls).1
        ((outcome.client.run calls).1.lookup transport clock bucket)
  received : outcome.journal.received =
    outcome.journal.sent.filterMap fun request => (transport request).toOption
  closed : outcome.journal.closed = outcome.journal.received.map fun _ => true

/-- Every lookup leaves every client so, be it open or closed, with every behaviour of the
transport. -/
theorem leavesIntact_lookup (transport : Transport) (clock : Calendar.Reading) (bucket : String)
    (c : Client) :
    LeavesIntact transport clock bucket c (c.lookup transport clock bucket) := by
  have course := course_lookup transport clock bucket c
  have comes := comes_lookup transport clock bucket c
  generalize c.lookup transport clock bucket = outcome at course comes
  refine ⟨fun e => course.error_iff, fun e => course.cache_of_error, ?_, comes.received_eq,
    comes.closed_eq⟩
  intro e failing calls others transport clock
  -- Neither the failure nor the calls after it put the bucket into the cache.
  have before : c.Lacks bucket := (course.error_iff.mp failing).1
  have after : outcome.client.Lacks bucket := by
    refine ⟨course.sameMake.anonymous.trans before.signed, ?_⟩
    rw [course.cache_of_error failing]
    exact before.absent
  exact (after.run others).misses transport clock

end Client

end BucketRegion
