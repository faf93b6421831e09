import BucketRegion.Client.Lookup
import BucketRegion.Proofs.Except
import BucketRegion.Proofs.Signing

/-!
# Steps of a lookup

What each step of a lookup can come to, one case for each way it can go. Everything that is proved
of lookups, alone or among others, starts from these cases and does not open the steps again.
-/

set_option autoImplicit false

namespace BucketRegion

open Http (Transport Request Response)
open Http.Session (authorized)

@[simp] theorem Http.Session.url_authorized (request : Request) :
    (authorized request).url = request.url := by
  unfold authorized
  split <;> rfl

/-! ## Exchanges -/

section Exchanges

variable {session : Http.Session} {transport : Transport} {request : Request}

theorem Http.Session.send_of_closed (closed : session.isOpen = false) :
    session.send transport request = ⟨session, none, none, .error .closed⟩ := by
  simp [send, closed]

theorem Http.Session.send_of_failure {f : Http.Failure} (opened : session.isOpen = true)
    (lost : transport (authorized request) = .error f) :
    session.send transport request =
      ⟨session, some (authorized request), none, .error (.failure f)⟩ := by
  simp [send, opened, lost]

theorem Http.Session.send_of_problem {response : Response} {p : Http.Redirect.Problem}
    (opened : session.isOpen = true) (came : transport (authorized request) = .ok response)
    (astray : Http.Redirect.check
      (session.jar.learn (.ofUrl (authorized request).url) response) (authorized request).url
      response = .error p) :
    session.send transport request =
      ⟨{ session with jar := session.jar.learn (.ofUrl (authorized request).url) response },
        some (authorized request), some response, .error (.redirect p)⟩ := by
  rw [url_authorized] at astray
  simp [send, opened, came, astray]

theorem Http.Session.send_of_response (session : Http.Session) {response : Response}
    (opened : session.isOpen = true)
    (came : transport (authorized request) = .ok response)
    (passed : Http.Redirect.check
      (session.jar.learn (.ofUrl (authorized request).url) response) (authorized request).url
      response = .ok ()) :
    session.send transport request =
      ⟨{ session with jar := session.jar.learn (.ofUrl (authorized request).url) response },
        some (authorized request), some response, .ok response⟩ := by
  rw [url_authorized] at passed
  simp [send, opened, came, passed]

end Exchanges

namespace Client

/-! ## Queries -/

theorem url_build {method : String} {url : Url} {headers : Http.Headers} {body : Bytes}
    {request : Request} (built : Request.build method url headers body = .ok request) :
    request.url = url := by
  unfold Request.build at built
  obtain ⟨host, _, finished⟩ := bind_eq_ok.mp built
  cases finished
  rfl

theorem url_unsignedQuery {c : Client} {bucket : String} {request : Request}
    (built : c.unsignedQuery bucket = .ok request) :
    Endpoint.locationUrl c.endpoint bucket = .ok request.url := by
  unfold unsignedQuery Http.Session.request at built
  obtain ⟨url, located, requested⟩ := bind_eq_ok.mp built
  obtain ⟨headers, _, put⟩ := bind_eq_ok.mp (mapError_eq_ok.mp requested)
  rw [url_build put]
  exact mapError_eq_ok.mp located

/-- A query asks for the URL that names the location of its bucket. -/
theorem url_query {c : Client} {clock : Calendar.Reading} {bucket : String} {request : Request}
    (built : c.query clock bucket = .ok request) :
    Endpoint.locationUrl c.endpoint bucket = .ok request.url := by
  unfold query at built
  obtain ⟨plain, unsigned, signed⟩ := bind_eq_ok.mp built
  have named := url_unsignedQuery unsigned
  have kept := Signing.Signer.url_sign c.signer clock Region.default plain
  split at signed
  · cases signed
    exact named
  · dsimp only at signed
    split at signed
    · cases signed
    · cases signed
      rw [kept]
      exact named

/-- A client that signs the older way has a query for every bucket that has a location URL, as
long as its access key is ASCII text, its secret key can be encoded, and the time can be written. -/
theorem query_of_v2 {c : Client} {clock : Calendar.Reading} {bucket : String} {plain : Request}
    {url : Url} {instant : Calendar.Instant} {secret : Bytes} (older : c.signer.version = .v2)
    (ascii : Text.isAscii c.signer.credentials.accessKey.toList = true)
    (encoded : Utf8.encode? c.signer.credentials.secretKey = .ok secret)
    (built : c.unsignedQuery bucket = .ok plain)
    (resource : Signing.V2.signingUrl plain.url = .ok url)
    (time : clock.instant? = some instant) : ∃ request, c.query clock bucket = .ok request := by
  have signs : (c.signer.sign clock Region.default plain).problem = none := by
    rw [Signing.Signer.sign_of_v2 older]
    exact Signing.V2.problem_sign resource time ascii encoded
  cases unsigned : c.anonymous with
  | true => exact ⟨plain, by simp [query, bind_eq_ok, built, unsigned, pure, Except.pure]⟩
  | false =>
      refine ⟨(c.signer.sign clock Region.default plain).request, ?_⟩
      simp [query, bind_eq_ok, built, unsigned, signs, pure, Except.pure]

/-! ## Turns -/

/-- A client that has kept the cookies of a response. -/
def learn (c : Client) (request : Request) (response : Response) : Client :=
  { c with session := { c.session with jar := c.session.jar.learn (.ofUrl request.url) response } }

/-- A client that has counted a response by its status. -/
def countStatus (c : Client) (response : Response) : Client :=
  { c with counters := c.counters.incrStatus response.status }

/-- What a step of a lookup of a bucket can come to. -/
inductive Turn (transport : Transport) (clock : Calendar.Reading) (bucket : String) (c : Client) :
    Phase → Move → Prop where
  | anonymous (unsigned : c.anonymous = true) :
      Turn transport clock bucket c .begun
        ⟨c.count "anonymous_lookups", .ended (.ok Region.default), []⟩
  | cached {region : String} {event : Event} (signed : c.anonymous = false)
      (held : c.cache.get? bucket = some region) :
      Turn transport clock bucket c .begun
        ⟨c.count "location_cache_hits", .ended (.ok region), [.report event]⟩
  | missed (signed : c.anonymous = false) (absent : c.cache.get? bucket = none) :
      Turn transport clock bucket c .begun ⟨c.count "location_cache_misses", .missed, []⟩
  | unqueried {e : QueryError} (unbuilt : c.query clock bucket = .error e) :
      Turn transport clock bucket c .missed ⟨c, failed (.query e), [spanEnd bucket]⟩
  | queried {request : Request} (built : c.query clock bucket = .ok request) :
      Turn transport clock bucket c .missed ⟨c.count "location_requests", .asking request, []⟩
  | shut {request : Request} (closed : c.session.isOpen = false) :
      Turn transport clock bucket c (.asking request)
        ⟨c, failed (.send .closed), [spanEnd bucket]⟩
  | unanswered {request : Request} {f : Http.Failure} (opened : c.session.isOpen = true)
      (lost : transport (authorized request) = .error f) :
      Turn transport clock bucket c (.asking request)
        ⟨(c.transportTrouble bucket f.message f.kind).1, failed (.send (.failure f)),
          .send (authorized request) ::
            ((c.transportTrouble bucket f.message f.kind).2 ++ [spanEnd bucket])⟩
  | refused {request : Request} {response : Response} {p : Http.Redirect.Problem}
      (opened : c.session.isOpen = true) (came : transport (authorized request) = .ok response)
      (astray : Http.Redirect.check (c.learn (authorized request) response).session.jar
        (authorized request).url response = .error p) :
      Turn transport clock bucket c (.asking request)
        ⟨((c.learn (authorized request) response).transportTrouble bucket p.message
            (Http.SendError.redirect p).kind).1,
          failed (.send (.redirect p)),
          .send (authorized request) :: .receive response :: .close ::
            (((c.learn (authorized request) response).transportTrouble bucket p.message
              (Http.SendError.redirect p).kind).2 ++ [spanEnd bucket])⟩
  | answered {request : Request} {response : Response} (opened : c.session.isOpen = true)
      (came : transport (authorized request) = .ok response)
      (passed : Http.Redirect.check (c.learn (authorized request) response).session.jar
        (authorized request).url response = .ok ()) :
      Turn transport clock bucket c (.asking request)
        ⟨c.learn (authorized request) response, .reading (authorized request) response,
          [.send (authorized request), .receive response]⟩
  | unread {request : Request} {response : Response} {e : Response.ReadError}
      (fault : response.content = .error e) :
      Turn transport clock bucket c (.reading request response)
        ⟨(c.transportTrouble bucket (LookupError.read e).message e.kind).1, failed (.read e),
          (c.transportTrouble bucket (LookupError.read e).message e.kind).2 ++
            [.close, spanEnd bucket]⟩
  | rejected {request : Request} {response : Response} {body : Bytes} {e : LookupError}
      (whole : response.content = .ok body) (judged : judge bucket response body = .error e) :
      Turn transport clock bucket c (.reading request response)
        ⟨(c.countStatus response).countUndecodable e, failed e,
          [.report (Trace.locationResult bucket request.url.text response.status body.length 0),
            .close, spanEnd bucket]⟩
  | accepted {request : Request} {response : Response} {body : Bytes} {constraint : String}
      (whole : response.content = .ok body) (judged : judge bucket response body = .ok constraint) :
      Turn transport clock bucket c (.reading request response)
        ⟨c.countStatus response, .told constraint,
          [.report (Trace.locationResult bucket request.url.text response.status body.length 0),
            .close, spanEnd bucket]⟩
  | stored {constraint : String} {event : Event} :
      Turn transport clock bucket c (.told constraint)
        ⟨{ c with cache := c.cache.set bucket (Region.ofConstraint constraint) },
          .ended (.ok (Region.ofConstraint constraint)), [.report event]⟩
  | rested {result : Except LookupError String} :
      Turn transport clock bucket c (.ended result) ⟨c, .ended result, []⟩

variable {transport : Transport} {clock : Calendar.Reading} {bucket : String} {c : Client}

private theorem turn_consult : Turn transport clock bucket c .begun (c.consult bucket) := by
  unfold consult
  split
  · next unsigned => exact .anonymous unsigned
  · next signed =>
      have signed : c.anonymous = false := by simpa using signed
      split
      · next region held => exact .cached signed held
      · next absent => exact .missed signed absent

private theorem turn_prepare : Turn transport clock bucket c .missed (c.prepare clock bucket) := by
  unfold prepare
  split
  · next e unbuilt => exact .unqueried unbuilt
  · next request built => exact .queried built

private theorem turn_ask {request : Request} :
    Turn transport clock bucket c (.asking request) (c.ask transport bucket request) := by
  cases opened : c.session.isOpen with
  | false =>
      simp only [ask, Http.Session.send_of_closed opened, transportTrouble, Http.SendError.kind]
      exact .shut opened
  | true =>
      cases reply : transport (authorized request) with
      | error f =>
          simp only [ask, Http.Session.send_of_failure opened reply]
          exact .unanswered opened reply
      | ok response =>
          cases checked : Http.Redirect.check (c.learn (authorized request) response).session.jar
              (authorized request).url response with
          | error p =>
              simp only [ask, Http.Session.send_of_problem opened reply checked]
              exact .refused opened reply checked
          | ok done =>
              simp only [ask, Http.Session.send_of_response c.session opened reply checked]
              exact .answered opened reply checked

private theorem turn_readAnswer {request : Request} {response : Response} :
    Turn transport clock bucket c (.reading request response)
      (c.readAnswer bucket request response) := by
  unfold readAnswer
  split
  · next e fault => exact .unread fault
  · next body whole =>
      dsimp only
      split
      · next constraint judged => exact .accepted whole judged
      · next e judged => exact .rejected whole judged

/-- Every step of a lookup goes one of these ways. -/
theorem turn_advance (transport : Transport) (clock : Calendar.Reading) (bucket : String)
    (c : Client) (phase : Phase) :
    Turn transport clock bucket c phase (c.advance transport clock bucket phase) := by
  cases phase with
  | begun => exact turn_consult
  | missed => exact turn_prepare
  | asking request => exact turn_ask
  | reading request response => exact turn_readAnswer
  | told constraint => exact .stored
  | ended result => exact .rested

/-! ## What a step writes and what it keeps -/

/-- What the cache holds after a step of a lookup in this phase. -/
def cacheAfter (bucket : String) (cache : LocationCache) : Phase → LocationCache
  | .told constraint => cache.set bucket (Region.ofConstraint constraint)
  | _ => cache

/-- Two clients that were made of the same options, and are both open or both closed. -/
structure SameMake (c d : Client) : Prop where
  endpoint : d.endpoint = c.endpoint
  anonymous : d.anonymous = c.anonymous
  signer : d.signer = c.signer
  isOpen : d.session.isOpen = c.session.isOpen

theorem SameMake.trans {c d e : Client} (first : SameMake c d) (second : SameMake d e) :
    SameMake c e :=
  ⟨second.endpoint.trans first.endpoint, second.anonymous.trans first.anonymous,
    second.signer.trans first.signer, second.isOpen.trans first.isOpen⟩

theorem transportTrouble_counts (c : Client) (bucket message : String)
    (kind : Http.FailureKind) :
    ∃ counters, (c.transportTrouble bucket message kind).1 = { c with counters := counters } := by
  unfold transportTrouble
  split
  · exact ⟨_, rfl⟩
  · exact ⟨c.counters, rfl⟩

theorem countUndecodable_counts (c : Client) (e : LookupError) :
    ∃ counters, c.countUndecodable e = { c with counters := counters } := by
  unfold countUndecodable
  split
  · exact ⟨_, rfl⟩
  · exact ⟨c.counters, rfl⟩

variable {phase : Phase} {move : Move}

/-- A step changes nothing of a client but its cookies, its counts and, at the end, its cache. -/
theorem Turn.changes (turn : Turn transport clock bucket c phase move) :
    ∃ jar counters, move.client =
      { c with session := { c.session with jar := jar }, counters := counters,
               cache := cacheAfter bucket c.cache phase } := by
  cases turn with
  | unanswered =>
      obtain ⟨counters, counted⟩ := transportTrouble_counts c bucket _ _
      exact ⟨c.session.jar, counters, counted⟩
  | @refused request response =>
      obtain ⟨counters, counted⟩ :=
        transportTrouble_counts (c.learn (authorized request) response) bucket _ _
      exact ⟨_, counters, counted⟩
  | answered => exact ⟨_, _, rfl⟩
  | unread =>
      obtain ⟨counters, counted⟩ := transportTrouble_counts c bucket _ _
      exact ⟨c.session.jar, counters, counted⟩
  | @rejected request response body e =>
      obtain ⟨counters, counted⟩ := countUndecodable_counts (c.countStatus response) e
      exact ⟨c.session.jar, counters, counted⟩
  | _ => exact ⟨c.session.jar, _, rfl⟩

theorem Turn.cache_eq (turn : Turn transport clock bucket c phase move) :
    move.client.cache = cacheAfter bucket c.cache phase := by
  obtain ⟨jar, counters, changed⟩ := turn.changes
  rw [changed]

theorem Turn.sameMake (turn : Turn transport clock bucket c phase move) :
    SameMake c move.client := by
  obtain ⟨jar, counters, changed⟩ := turn.changes
  rw [changed]
  exact ⟨rfl, rfl, rfl, rfl⟩

theorem advance_of_held {region : String} (signed : c.anonymous = false)
    (held : c.cache.get? bucket = some region) :
    (c.advance transport clock bucket .begun).phase = .ended (.ok region) := by
  simp [advance, consult, signed, held]

theorem advance_of_absent (signed : c.anonymous = false) (absent : c.cache.get? bucket = none) :
    c.advance transport clock bucket .begun = ⟨c.count "location_cache_misses", .missed, []⟩ := by
  simp [advance, consult, signed, absent]

theorem advance_of_query {request : Request} (built : c.query clock bucket = .ok request) :
    c.advance transport clock bucket .missed =
      ⟨c.count "location_requests", .asking request, []⟩ := by
  simp [advance, prepare, built]

theorem advance_of_response {request : Request} {response : Response}
    (opened : c.session.isOpen = true) (came : transport (authorized request) = .ok response)
    (passed : Http.Redirect.check (c.learn (authorized request) response).session.jar
      (authorized request).url response = .ok ()) :
    c.advance transport clock bucket (.asking request) =
      ⟨c.learn (authorized request) response, .reading (authorized request) response,
        [.send (authorized request), .receive response]⟩ := by
  simp only [advance, ask, Http.Session.send_of_response c.session opened came passed]
  rfl

theorem advance_of_judged {request : Request} {response : Response} {body : Bytes}
    {constraint : String} (whole : response.content = .ok body)
    (judged : judge bucket response body = .ok constraint) :
    (c.advance transport clock bucket (.reading request response)).phase = .told constraint := by
  simp only [advance, readAnswer, whole, judged]

/-- A lookup that is asked either fails or has a response to read. -/
theorem Turn.of_asking {request : Request}
    (turn : Turn transport clock bucket c (.asking request) move) :
    (∃ e, move.phase = failed e) ∨ ∃ sent response, move.phase = .reading sent response := by
  cases turn with
  | shut => exact .inl ⟨_, rfl⟩
  | unanswered => exact .inl ⟨_, rfl⟩
  | refused => exact .inl ⟨_, rfl⟩
  | answered => exact .inr ⟨_, _, rfl⟩

/-- A lookup that reads either fails or has been told a constraint. -/
theorem Turn.of_reading {request : Request} {response : Response}
    (turn : Turn transport clock bucket c (.reading request response) move) :
    (∃ e, move.phase = failed e) ∨ ∃ constraint, move.phase = .told constraint := by
  cases turn with
  | unread => exact .inl ⟨_, rfl⟩
  | rejected => exact .inl ⟨_, rfl⟩
  | accepted => exact .inr ⟨_, rfl⟩

end Client

end BucketRegion
