import BucketRegion.CommandLine.Run
import BucketRegion.Proofs.Client.Run
import BucketRegion.Proofs.Signing.Headers
import BucketRegion.Proofs.Url.Authority

/-!
# What is shown and what is sent

A query can be shown without being sent. What reaches the transport for a bucket that is not in the
cache is the query that is shown, unless the endpoint holds a name or a password: these take the
place of the signature when the request leaves, and nothing else of it changes.
-/

set_option autoImplicit false

namespace BucketRegion

open Http (Transport Request)
open Http.Session (authorized credentialsOf)

/-! ## Signatures -/

namespace Signing

/-- What is known of a request that has been signed: the time, and that the signature is its only
authorization. -/
structure Signed (clock : Calendar.Reading) (request : Request) : Prop where
  time : ∃ instant, clock.instant? = some instant
  signature : ∃ value : String, value.toList.take 3 = ['A', 'W', 'S'] ∧
    request.headers.lines.filter (fun line => line.1 == "authorization") =
      [("authorization", value)]

/-- An outcome that has no problem is a signed request. -/
def Outcome.Signs (clock : Calendar.Reading) (outcome : Outcome) : Prop :=
  outcome.problem = none → Signed clock outcome.request

variable {clock : Calendar.Reading} {request : Request} {next : Request → Outcome}

theorem Outcome.signs_failed {problem : Problem} : (Outcome.failed request problem).Signs clock := by
  intro fine
  cases fine

/-- If the header cannot be set there is no signature, and else what comes next gives it. -/
theorem Outcome.signs_setting {name value : String}
    (signs : ∀ r : Request, (next r).Signs clock) :
    (Outcome.setting request name value next).Signs clock := by
  unfold setting
  split
  · exact signs _
  · exact signs_failed

theorem Outcome.signs_last {instant : Calendar.Instant} {value : String}
    (time : clock.instant? = some instant) (scheme : value.toList.take 3 = ['A', 'W', 'S']) :
    (Outcome.setting request "authorization" value .done).Signs clock := by
  unfold setting
  split
  · next changed done =>
      intro _
      refine ⟨⟨instant, time⟩, value, scheme, ?_⟩
      change changed.headers.lines.filter _ = _
      rw [(Request.eq_of_set done).2.2.2]
      exact Http.Headers.filter_putLine _ _ _
  · exact signs_failed

theorem take_append_of_scheme {lead rest : String} (scheme : lead.toList.take 3 = ['A', 'W', 'S']) :
    (lead ++ rest).toList.take 3 = ['A', 'W', 'S'] := by
  have long : 3 ≤ lead.toList.length := by
    have three := congrArg List.length scheme
    rw [List.length_take] at three
    change min 3 lead.toList.length = 3 at three
    omega
  rw [String.toList_append, List.take_append_of_le_length long]
  exact scheme

theorem V2.signs_sign (credentials : Credentials) (clock : Calendar.Reading)
    (request : Request) : (V2.sign credentials clock request).Signs clock := by
  unfold V2.sign
  split
  · exact Outcome.signs_failed
  · split
    · exact Outcome.signs_failed
    · next instant time =>
        dsimp only
        split
        · exact Outcome.signs_failed
        · refine Outcome.signs_setting fun r => Outcome.signs_last time ?_
          iterate 3 apply take_append_of_scheme
          decide

theorem V4.signs_sign (credentials : Credentials) (clock : Calendar.Reading) (region : String)
    (request : Request) : (V4.sign credentials clock region request).Signs clock := by
  unfold V4.sign
  dsimp only
  split
  case' isFalse => refine Outcome.signs_setting fun r => ?_
  all_goals
    split
    · exact Outcome.signs_failed
    · next instant time =>
        split
        · exact Outcome.signs_failed
        · split
          · exact Outcome.signs_failed
          · refine Outcome.signs_setting fun r => Outcome.signs_last time ?_
            unfold authorization
            iterate 7 apply take_append_of_scheme
            decide

theorem Signer.signs_sign (signer : Signer) (clock : Calendar.Reading) (region : String)
    (request : Request) : (signer.sign clock region request).Signs clock := by
  unfold Signer.sign
  split
  · exact V4.signs_sign signer.credentials clock region request
  · exact V2.signs_sign signer.credentials clock request

end Signing

/-! ## Requests that leave -/

/-- The authorization that a name and password in a URL give. -/
def Http.Session.basicToken (url : Url) : String :=
  "Basic " ++
    Base64.encode (Utf8.encode ((credentialsOf url).1 ++ ":" ++ (credentialsOf url).2))

open Http.Session (basicToken)

theorem authorized_of_none {request : Request} (none : credentialsOf request.url = ("", "")) :
    authorized request = request := by
  simp [authorized, none]

theorem authorized_of_some {request : Request} (held : credentialsOf request.url ≠ ("", "")) :
    authorized request = { request with
      headers.lines :=
        Http.Headers.putLine "authorization" (basicToken request.url) request.headers.lines } := by
  unfold authorized basicToken
  split
  · next none => exact absurd none held
  · next shape => rw [shape]

/-- A signed request leaves as it is just if its URL holds neither a name nor a password. -/
theorem authorized_eq_iff {clock : Calendar.Reading} {request : Request}
    (signed : Signing.Signed clock request) :
    authorized request = request ↔ credentialsOf request.url = ("", "") := by
  constructor
  · intro same
    by_contra held
    obtain ⟨value, scheme, single⟩ := signed.signature
    have put := Http.Headers.filter_putLine "authorization" (basicToken request.url)
      request.headers.lines
    have kept : Http.Headers.putLine "authorization" (basicToken request.url)
        request.headers.lines = request.headers.lines := by
      have lines := congrArg (fun r : Request => r.headers.lines) same
      rw [authorized_of_some held] at lines
      exact lines
    rw [kept, single] at put
    -- A signature starts with `AWS`, and this token does not.
    have replaced : value = basicToken request.url := by simpa using put
    rw [replaced, basicToken, String.toList_append] at scheme
    exact absurd scheme (by simp)
  · exact authorized_of_none

/-- A name or password in the URL changes the line of the signature and no other. -/
theorem authorized_of_signed {clock : Calendar.Reading} {request : Request}
    (signed : Signing.Signed clock request) (held : credentialsOf request.url ≠ ("", "")) :
    authorized request = { request with
      headers.lines := request.headers.lines.map fun line =>
        if line.1 == "authorization" then ("authorization", basicToken request.url)
        else line } := by
  obtain ⟨value, _, single⟩ := signed.signature
  rw [authorized_of_some held, Http.Headers.putLine_of_single single]

namespace Client

variable {transport : Transport} {clock made : Calendar.Reading} {bucket : String}
  {c d : Client} {options : Options}

/-- The query of a client with keys is signed. -/
theorem signed_query {request : Request} (signed : c.anonymous = false)
    (built : c.query clock bucket = .ok request) : Signing.Signed clock request := by
  unfold query at built
  obtain ⟨plain, _, built⟩ := bind_eq_ok.mp built
  rw [signed] at built
  simp only [Bool.false_eq_true, if_false] at built
  split at built
  · cases built
  · next fine =>
      cases built
      exact Signing.Signer.signs_sign c.signer clock Region.default plain fine

/-- A client that has just been made has an endpoint that was accepted, and is open. -/
theorem accepted_new (new : Client.new options clock = .ok c) :
    Endpoint.parse options.endpoint = .ok c.endpoint ∧ c.session.isOpen = true := by
  unfold Client.new at new
  obtain ⟨endpoint, accepted, new⟩ := bind_eq_ok.mp new
  obtain ⟨version, _, new⟩ := bind_eq_ok.mp new
  obtain ⟨userAgent, _, new⟩ := bind_eq_ok.mp new
  cases new
  exact ⟨mapError_eq_ok.mp accepted, rfl⟩

theorem sent_of_query {request : Request} (signed : c.anonymous = false)
    (absent : c.cache.get? bucket = none) (opened : c.session.isOpen = true)
    (built : c.query clock bucket = .ok request) :
    (c.lookup transport clock bucket).journal.sent = [authorized request] := by
  rw [(course_lookup transport clock bucket c).sent_eq signed absent, opened, built]
  rfl

theorem Course.of_unqueried {outcome : Outcome (Except LookupError String)} {e : QueryError}
    (course : Course transport clock bucket c outcome) (signed : c.anonymous = false)
    (absent : c.cache.get? bucket = none) (unbuilt : c.query clock bucket = .error e) :
    outcome.result = .error (.query e) ∧ outcome.journal.sent = [] := by
  cases course with
  | anonymous unsigned => simp [signed] at unsigned
  | cached _ held => simp [absent] at held
  | unqueried _ _ same =>
      rw [unbuilt] at same
      cases same
      exact ⟨rfl, rfl⟩
  | unanswered _ _ built => simp [unbuilt] at built
  | rejected _ _ built => simp [unbuilt] at built
  | resolved _ _ built => simp [unbuilt] at built

end Client

/-! ## Commands -/

namespace CommandLine

theorem sent_resolve_one (c : Client) (transport : Transport) (clock : Calendar.Reading)
    (bucket : String) :
    (Batch.resolve c transport clock [bucket]).journal.sent =
      (c.lookup transport clock bucket).journal.sent := by
  simp only [Batch.resolve, Batch.resolveInto]
  split
  · rfl
  · simp

theorem journal_conclude (s : Surroundings) (report : Batch.Report) (metricsOut : Option String)
    (c : Client) (log : List (List (String × Value))) (journal : Journal) :
    (conclude s report metricsOut c log journal).journal = journal := by
  unfold conclude
  dsimp only
  split
  · rfl
  · split <;> rfl

theorem journal_resolveWith (s : Surroundings) (context : List (String × Value)) (c : Client)
    (buckets : List String) (metricsOut : Option String) :
    (resolveWith s context c buckets metricsOut).journal =
      (Batch.resolve c s.transport s.clock buckets).journal := by
  unfold resolveWith
  dsimp only
  split
  · exact journal_conclude _ _ _ _ _ _
  · rfl

variable {s : Surroundings} {document : Value} {settings : Settings} {bucket : String}
  {c : Client} {request : Request}

/-- The one command shows a query and sends nothing, the other sends that query once. -/
structure ShowsAndSends (s : Surroundings) (document : Value) (bucket : String) (c : Client)
    (request : Request) : Prop where
  shows : (explain s document bucket).output = printed (explanation c bucket request)
  sendsNothing : (explain s document bucket).journal = []
  sends : ∀ (concurrency : Option Int) (n : Int) (metricsOut : Option String),
    concurrencyOf document concurrency = .ok n →
    (resolve s document [bucket] concurrency metricsOut).journal.sent = [authorized request]

theorem showsAndSends (read : Settings.ofValue document s.environment = .ok settings)
    (new : Client.new (.ofSettings settings) s.clock = .ok c) (signed : c.anonymous = false)
    (built : c.query s.clock bucket = .ok request) :
    ShowsAndSends s document bucket c request := by
  obtain ⟨instant, time⟩ := (Client.signed_query signed built).time
  refine ⟨?_, ?_, ?_⟩
  · simp only [explain, read, new, built]
  · simp only [explain, read, new, built]
  · intro concurrency n metricsOut number
    have absent : c.cache.get? bucket = none := by rw [Client.cache_new new]; rfl
    simp only [resolve, read, number, time, new, mapError_ok, bind, Except.bind, pure,
      Except.pure]
    rw [journal_resolveWith, sent_resolve_one]
    exact Client.sent_of_query signed absent (Client.accepted_new new).2 built

end CommandLine

namespace Client

/-! ## Shown and sent -/

/-- What a client that has come from `c` sends for a bucket that it does not hold, against the
query that it shows. -/
structure SendsAsShown (c d : Client) (transport : Transport) (clock : Calendar.Reading)
    (bucket : String) : Prop where
  unshown : ∀ e, d.query clock bucket = .error e →
    (d.lookup transport clock bucket).result = .error (.query e) ∧
      (d.lookup transport clock bucket).journal.sent = []
  once : ∀ request, d.query clock bucket = .ok request →
    (d.lookup transport clock bucket).journal.sent = [authorized request]
  same_iff : ∀ request, d.query clock bucket = .ok request →
    (authorized request = request ↔ credentialsOf request.url = ("", ""))
  /-- What the URL of a query holds is what the endpoint holds. -/
  carried : ∀ request, d.query clock bucket = .ok request → '@' ∉ c.endpoint.host.toList →
    credentialsOf request.url = credentialsOf c.endpoint
  replaced : ∀ request, d.query clock bucket = .ok request →
    credentialsOf request.url ≠ ("", "") →
    authorized request = { request with
      headers.lines := request.headers.lines.map fun line =>
        if line.1 == "authorization" then ("authorization", basicToken request.url) else line }
  commands : ∀ (s : CommandLine.Surroundings) document settings request,
    Settings.ofValue document s.environment = .ok settings →
    Client.new (.ofSettings settings) s.clock = .ok c →
    c.query s.clock bucket = .ok request →
    CommandLine.ShowsAndSends s document bucket c request

variable {transport : Transport} {clock made : Calendar.Reading} {bucket : String}
  {c : Client} {options : Options}

theorem sendsAsShown_run (new : Client.new options made = .ok c) (signed : c.anonymous = false)
    (calls : List Call) (absent : (c.run calls).1.cache.get? bucket = none)
    (opened : (c.run calls).1.session.isOpen = true) (transport : Transport)
    (clock : Calendar.Reading) : SendsAsShown c (c.run calls).1 transport clock bucket := by
  obtain ⟨endpoint, anonymous⟩ := kept_run c calls
  generalize (c.run calls).1 = d at *
  have keys : d.anonymous = false := anonymous.trans signed
  refine ⟨?_, ?_, ?_, ?_, ?_, ?_⟩
  · intro e unbuilt
    exact (course_lookup transport clock bucket d).of_unqueried keys absent unbuilt
  · intro request built
    exact sent_of_query keys absent opened built
  · intro request built
    exact authorized_eq_iff (signed_query keys built)
  · intro request built plain
    have located := url_query built
    rw [endpoint] at located
    have userinfo := Endpoint.userinfo_locationUrl (accepted_new new).1 plain located
    simp only [credentialsOf, userinfo]
  · intro request built held
    exact authorized_of_signed (signed_query keys built) held
  · intro s document settings request read newly built
    exact CommandLine.showsAndSends read newly signed built

end Client

/-! ## An endpoint with a name and a password -/

namespace Sample

def keyedOptions : Client.Options :=
  { options with endpoint := .text "https://user:pw@storage.example.com" }

/-- The client of these options, made at noon. -/
def keyed : Client :=
  { client with endpoint := ⟨"https", "user:pw", "storage.example.com", none, "", none, none⟩ }

theorem new_keyed : Client.new keyedOptions noon = .ok keyed := by
  have endpoint : Endpoint.parse keyedOptions.endpoint = .ok keyed.endpoint :=
    toOption_eq_some.mp (by decide +kernel)
  have version : SignatureVersion.ofValue keyedOptions.signatureVersion = .ok .v2 := rfl
  have userAgent : Client.userAgentOf keyedOptions.userAgent = .ok "bucketloc/0.1.0" :=
    toOption_eq_some.mp (by decide +kernel)
  have jar : Http.CookieJar.new noon = ⟨1792411200, []⟩ := by decide +kernel
  simp only [Client.new, endpoint, version, userAgent, jar, mapError_ok, bind, Except.bind]
  rfl

/-- The URL that asks for the location of a bucket there. -/
def keyedUrl : Url :=
  ⟨"https", "user:pw", "storage.example.com", none, "/photos", some "location=", none⟩

theorem query_keyed : ∃ request, keyed.query noon "photos" = .ok request := by
  have built : keyed.unsignedQuery "photos" = .ok
      { plainQuery with
        url := keyedUrl
        headers.lines := ("host", "storage.example.com") :: plainQuery.headers.lines.tail } :=
    toOption_eq_some.mp (by decide +kernel)
  have resource : Signing.V2.signingUrl keyedUrl = .ok { keyedUrl with query := some "location" } :=
    toOption_eq_some.mp (by decide +kernel)
  have time : noon.instant? = some ⟨⟨2026, 10, 19⟩, 12, 0, 0⟩ := by decide +kernel
  exact Client.query_of_v2 rfl (by decide) rfl built resource time

end Sample

namespace Client

theorem sendsAsShown_run_keyed :
    SendsAsShown Sample.keyed (Sample.keyed.run [.forget "photos"]).1 Sample.transport Sample.noon
      "photos" :=
  sendsAsShown_run Sample.new_keyed rfl [.forget "photos"] rfl rfl Sample.transport Sample.noon

/-- The signed query of this client does not reach the transport. -/
theorem keyed_query_not_sent :
    ∃ request, Sample.keyed.query Sample.noon "photos" = .ok request ∧
      (Sample.keyed.lookup Sample.transport Sample.noon "photos").journal.sent ≠ [request] := by
  obtain ⟨request, built⟩ := Sample.query_keyed
  have located : Endpoint.locationUrl Sample.keyed.endpoint "photos" =
      .ok Sample.keyedUrl := toOption_eq_some.mp (by decide +kernel)
  have url : request.url = Sample.keyedUrl :=
    Except.ok.inj ((url_query built).symm.trans located)
  have held : credentialsOf request.url ≠ ("", "") := by
    rw [url]
    decide +kernel
  refine ⟨request, built, ?_⟩
  rw [sent_of_query rfl rfl rfl built]
  intro same
  have kept : authorized request = request := List.singleton_inj.mp same
  exact held ((authorized_eq_iff (signed_query rfl built)).mp kept)

end Client

end BucketRegion
