import BucketRegion.Proofs.Client.Atlas
import BucketRegion.Proofs.LocationCache

/-!
# Runs of a client

A client through any number of calls, one after the other, with any behaviour of the transports
that its lookups meet. It does what a map of regions does: its cache is that map after every call,
and only lookups of buckets that the map does not hold reach the transport, each at most once.
-/

set_option autoImplicit false

namespace BucketRegion

open Http (Transport Request Response)
open Http.Session (authorized)

/-- A call on a client. Every lookup meets a transport and a reading of the clock of its own. -/
inductive Call where
  | lookup (transport : Transport) (clock : Calendar.Reading) (bucket : String)
  | forget (bucket : String)
  | close

/-- The bucket that a call is about; closing is about none. -/
def Call.bucket? : Call → Option String
  | .lookup _ _ bucket => some bucket
  | .forget bucket => some bucket
  | .close => none

namespace Client

/-- Makes a call. -/
def perform (c : Client) : Call → Client × Done
  | .lookup transport clock bucket =>
      let outcome := c.lookup transport clock bucket
      (outcome.client, .lookup transport bucket outcome.result outcome.journal)
  | .forget bucket => ((c.forget bucket).client, .forgotten bucket)
  | .close => (c.close, .closed)

/-- Makes calls in order. -/
def run (c : Client) (calls : List Call) : Client × List Done :=
  calls.foldl
    (fun (before, history) call =>
      let (after, done) := before.perform call
      (after, history ++ [done]))
    (c, [])

theorem run_snoc (c : Client) (calls : List Call) (call : Call) :
    c.run (calls ++ [call]) =
      (((c.run calls).1.perform call).1,
        (c.run calls).2 ++ [((c.run calls).1.perform call).2]) := by
  simp [run]

/-! ## One call -/

variable {transport : Transport} {clock : Calendar.Reading} {bucket : String} {c : Client}
  {outcome : Outcome (Except LookupError String)}

theorem sameMake_count (c : Client) (name : String) : SameMake c (c.count name) :=
  ⟨rfl, rfl, rfl, rfl⟩

theorem sameMake_queried (c : Client) : SameMake c c.queried := ⟨rfl, rfl, rfl, rfl⟩

theorem sameMake_learn (c : Client) (request : Request) (response : Response) :
    SameMake c (c.learn request response) := ⟨rfl, rfl, rfl, rfl⟩

theorem Course.sameMake (course : Course transport clock bucket c outcome) :
    SameMake c outcome.client := by
  cases course with
  | anonymous => exact sameMake_count c _
  | cached => exact sameMake_count c _
  | unqueried => exact sameMake_count c _
  | unanswered _ _ _ asked => exact (sameMake_queried c).trans asked.sameMake
  | rejected _ _ _ _ _ _ read =>
      exact ((sameMake_queried c).trans (sameMake_learn _ _ _)).trans read.sameMake
  | resolved _ _ _ _ _ _ _ _ make => exact make

/-- A lookup that fails leaves the cache as it was. -/
theorem Course.cache_of_error {e : LookupError}
    (course : Course transport clock bucket c outcome) (failing : outcome.result = .error e) :
    outcome.client.cache = c.cache := by
  cases course with
  | unqueried => rfl
  | unanswered _ _ _ asked => exact asked.cache_eq
  | rejected _ _ _ _ _ _ read => exact read.cache_eq
  | _ => cases failing

/-- Requests reach the transport for buckets only that a client with keys does not hold. -/
theorem Course.sent_eq (course : Course transport clock bucket c outcome)
    (signed : c.anonymous = false) (absent : c.cache.get? bucket = none) :
    outcome.journal.sent =
      if c.session.isOpen then (c.query clock bucket).toOption.toList.map authorized else [] := by
  cases course with
  | anonymous unsigned => simp [signed] at unsigned
  | cached _ held => simp [absent] at held
  | unqueried _ _ unbuilt => simp [unbuilt, Except.toOption, spanEnd]
  | unanswered _ _ built asked =>
      rw [asked.sent_of_asking, built]
      rfl
  | rejected _ _ built opened _ _ read =>
      simp [built, opened, read.sent_of_reading, Except.toOption]
  | resolved _ _ built opened _ _ _ _ _ _ unsent =>
      simp [built, opened, unsent, Except.toOption]

theorem Course.sent_length_le_one (course : Course transport clock bucket c outcome)
    (signed : c.anonymous = false) (absent : c.cache.get? bucket = none) :
    outcome.journal.sent.length ≤ 1 := by
  rw [course.sent_eq signed absent]
  split
  · cases c.query clock bucket <;> simp [Except.toOption]
  · exact Nat.zero_le 1

theorem judge_eq_ok {response : Response} {body : Bytes} {constraint : String} :
    judge bucket response body = .ok constraint ↔
      Http.isSuccess response.status = true ∧ Location.decode body bucket = .ok constraint := by
  unfold judge
  split
  · next success => simp [mapError_eq_ok, success]
  · next failing =>
      split <;> simp [failing]

/-- The map of a client: its cache. -/
def atlas (c : Client) : Atlas := c.cache.get?

theorem atlas_of_cache_set {d : Client} {region : String}
    (stored : d.cache = c.cache.set bucket region) :
    d.atlas = Function.update c.atlas bucket (some region) := by
  funext other
  simp [atlas, stored, Function.update_apply]

theorem atlas_forget (c : Client) (bucket : String) :
    (c.forget bucket).client.atlas = Function.update c.atlas bucket none := by
  funext other
  simp [atlas, forget, Function.update_apply]

theorem Course.allowed (course : Course transport clock bucket c outcome) :
    Atlas.Allows c.endpoint c.anonymous c.atlas
      (.lookup transport bucket outcome.result outcome.journal) outcome.client.atlas := by
  have once := course.sent_length_le_one
  have unwritten : ∀ e, outcome.result = .error e → outcome.client.cache = c.cache :=
    fun _ failing => course.cache_of_error failing
  cases course with
  | anonymous unsigned => exact .unasked unsigned rfl
  | cached signed held => exact .known signed held rfl
  | unqueried signed absent => exact .failed signed absent (once signed absent)
  | @unanswered request d e journal signed absent built asked =>
      have same : d.atlas = c.atlas := congrArg LocationCache.get? (unwritten e rfl)
      simp only [same]
      exact .failed signed absent (once signed absent)
  | @rejected request response d e journal signed absent built opened came passed read =>
      have same : d.atlas = c.atlas := congrArg LocationCache.get? (unwritten e rfl)
      simp only [same]
      exact .failed signed absent (once signed absent)
  | @resolved request response body constraint d journal signed absent built opened came passed
      whole judged make cache unsent =>
      obtain ⟨success, decoded⟩ := judge_eq_ok.mp judged
      simp only [atlas_of_cache_set cache]
      refine .learned signed absent (.intro ?_ ?_ came success whole
        decoded rfl)
      · rw [Http.Session.url_authorized]
        exact url_query built
      · simp [unsent]

/-- Every call does what the map of regions lets it do. -/
theorem allows_perform (c : Client) (call : Call) :
    Atlas.Allows c.endpoint c.anonymous c.atlas (c.perform call).2 (c.perform call).1.atlas := by
  cases call with
  | lookup transport clock bucket => exact (course_lookup transport clock bucket c).allowed
  | forget bucket =>
      simp only [perform]
      rw [atlas_forget]
      exact .forgotten
  | close => exact .closed

theorem Course.of_held {region : String} (course : Course transport clock bucket c outcome)
    (signed : c.anonymous = false) (held : c.cache.get? bucket = some region) :
    outcome.result = .ok region ∧ outcome.journal.sent = [] ∧ outcome.client.cache = c.cache := by
  cases course with
  | anonymous unsigned => simp [signed] at unsigned
  | cached _ same =>
      rw [held] at same
      cases same
      exact ⟨rfl, rfl, rfl⟩
  | unqueried _ absent => simp [held] at absent
  | unanswered _ absent => simp [held] at absent
  | rejected _ absent => simp [held] at absent
  | resolved _ absent => simp [held] at absent

theorem Course.of_anonymous (course : Course transport clock bucket c outcome)
    (unsigned : c.anonymous = true) :
    outcome.result = .ok Region.default ∧ outcome.journal.sent = [] ∧
      outcome.client.cache = c.cache := by
  cases course with
  | anonymous => exact ⟨rfl, rfl, rfl⟩
  | cached signed => simp [unsigned] at signed
  | unqueried signed => simp [unsigned] at signed
  | unanswered signed => simp [unsigned] at signed
  | rejected signed => simp [unsigned] at signed
  | resolved signed => simp [unsigned] at signed

/-- A call leaves what the cache holds of other buckets. -/
theorem get?_perform_of_other (c : Client) {call : Call} {bucket : String}
    (other : call.bucket? ≠ some bucket) :
    (c.perform call).1.cache.get? bucket = c.cache.get? bucket := by
  have sameBucket : (c.perform call).2.bucket? = call.bucket? := by
    cases call <;> rfl
  exact (allows_perform c call).eq_of_other (sameBucket ▸ other)

/-! ## Runs -/

theorem cache_new {options : Options} (new : Client.new options clock = .ok c) :
    c.cache = .empty := by
  unfold Client.new at new
  obtain ⟨endpoint, _, new⟩ := bind_eq_ok.mp new
  obtain ⟨version, _, new⟩ := bind_eq_ok.mp new
  obtain ⟨userAgent, _, new⟩ := bind_eq_ok.mp new
  cases new
  rfl

theorem kept_perform (c : Client) (call : Call) :
    (c.perform call).1.endpoint = c.endpoint ∧ (c.perform call).1.anonymous = c.anonymous := by
  cases call with
  | lookup transport clock bucket =>
      have make := (course_lookup transport clock bucket c).sameMake
      exact ⟨make.endpoint, make.anonymous⟩
  | forget bucket => exact ⟨rfl, rfl⟩
  | close => exact ⟨rfl, rfl⟩

theorem kept_run (c : Client) (calls : List Call) :
    (c.run calls).1.endpoint = c.endpoint ∧ (c.run calls).1.anonymous = c.anonymous := by
  induction calls using List.reverseRecOn with
  | nil => exact ⟨rfl, rfl⟩
  | append_singleton calls call ih =>
      have step := kept_perform (c.run calls).1 call
      rw [run_snoc]
      exact ⟨step.1.trans ih.1, step.2.trans ih.2⟩

/-- A client whose cache is empty at first runs as an empty map of regions does. -/
theorem runs_run (fresh : c.cache = .empty) (calls : List Call) :
    Atlas.Runs c.endpoint c.anonymous (c.run calls).2 (c.run calls).1.atlas := by
  induction calls using List.reverseRecOn with
  | nil =>
      have empty : c.atlas = Atlas.empty := congrArg LocationCache.get? fresh
      exact empty ▸ .start
  | append_singleton calls call ih =>
      obtain ⟨endpoint, anonymous⟩ := kept_run c calls
      have allowed := allows_perform (c.run calls).1 call
      rw [endpoint, anonymous] at allowed
      rw [run_snoc]
      exact .next ih allowed

/-- A lookup that is over met the transport of one of the calls. -/
theorem call_of_mem_run {calls : List Call} {result : Except LookupError String}
    {journal : Journal} (returned : .lookup transport bucket result journal ∈ (c.run calls).2) :
    ∃ clock, .lookup transport clock bucket ∈ calls := by
  induction calls using List.reverseRecOn with
  | nil => cases returned
  | append_singleton calls call ih =>
      rw [run_snoc] at returned
      rcases List.mem_append.mp returned with earlier | now
      · obtain ⟨clock, member⟩ := ih earlier
        exact ⟨clock, List.mem_append_left _ member⟩
      · cases call with
        | lookup met clock asked =>
            cases List.mem_singleton.mp now
            exact ⟨clock, List.mem_append_right _ (List.mem_singleton.mpr rfl)⟩
        | forget asked => cases List.mem_singleton.mp now
        | close => cases List.mem_singleton.mp now

/-- What a map of regions, empty when the client `c` was made, tells of what the client has become
after some calls and of what it does next. -/
structure FollowsAtlas (c d : Client) (history : List Done) : Prop where
  /-- The cache is a map that the calls have led to. -/
  simulated : Atlas.Runs c.endpoint c.anonymous history d.atlas
  held_iff : ∀ bucket, (d.cache.get? bucket).isSome = true ↔
    c.anonymous = false ∧ ∃ transport region journal,
      .lookup transport bucket (.ok region) journal ∈ sinceForgotten bucket history
  /-- A held region comes from the answer to the first lookup since the last forgetting. -/
  held_first : ∀ bucket region, d.cache.get? bucket = some region →
    ∃ transport journal, firstFound? bucket history = some (transport, journal, region) ∧
      Answered c.endpoint transport bucket region journal
  hit : ∀ transport clock bucket region, d.cache.get? bucket = some region →
    (d.lookup transport clock bucket).result = .ok region ∧
      (d.lookup transport clock bucket).journal.sent = [] ∧
      (d.lookup transport clock bucket).client.cache = d.cache
  /-- No request is sent twice, and none that a redirect asks for. -/
  miss : ∀ transport clock bucket, c.anonymous = false → d.cache.get? bucket = none →
    (d.lookup transport clock bucket).journal.sent.length ≤ 1 ∧
      ∀ request, d.query clock bucket = .ok request → d.session.isOpen = true →
        (d.lookup transport clock bucket).journal.sent = [authorized request]
  frame : ∀ call bucket, Call.bucket? call ≠ some bucket →
    (d.perform call).1.cache.get? bucket = d.cache.get? bucket
  unasked : ∀ transport clock bucket, c.anonymous = true →
    (d.lookup transport clock bucket).result = .ok Region.default ∧
      (d.lookup transport clock bucket).journal.sent = [] ∧
      (d.lookup transport clock bucket).client.cache = d.cache ∧ d.cache.get? bucket = none

/-- After any calls with any transports, a client does what a map of regions does. -/
theorem followsAtlas_run {options : Options} (new : Client.new options clock = .ok c)
    (calls : List Call) : FollowsAtlas c (c.run calls).1 (c.run calls).2 := by
  have runs := runs_run (cache_new new) calls
  obtain ⟨endpoint, anonymous⟩ := kept_run c calls
  generalize (c.run calls).1 = d at *
  generalize (c.run calls).2 = history at *
  have holds : ∀ bucket, d.cache.get? bucket =
      if c.anonymous then none else (firstFound? bucket history).map fun found => found.2.2 :=
    runs.eq_firstFound?
  have signedIfHeld : ∀ bucket region, d.cache.get? bucket = some region →
      c.anonymous = false := by
    intro bucket region held
    cases unsigned : c.anonymous with
    | false => rfl
    | true => simp [holds, unsigned] at held
  exact {
    simulated := runs
    held_iff := by
      intro bucket
      rw [holds, ← isSome_firstFound?_iff]
      cases c.anonymous <;> simp
    held_first := by
      intro bucket region held
      have signed := signedIfHeld bucket region held
      rw [holds, signed] at held
      obtain ⟨⟨transport, journal, found⟩, first, named⟩ := Option.map_eq_some_iff.mp held
      cases named
      exact ⟨transport, journal, first, runs.answered_first signed first⟩
    hit := by
      intro transport clock bucket region held
      have signed := anonymous.trans (signedIfHeld bucket region held)
      exact (course_lookup transport clock bucket d).of_held signed held
    miss := by
      intro transport clock bucket signed absent
      have course := course_lookup transport clock bucket d
      refine ⟨course.sent_length_le_one (anonymous.trans signed) absent, ?_⟩
      intro request built opened
      rw [course.sent_eq (anonymous.trans signed) absent, opened, built]
      rfl
    frame := fun call bucket other => get?_perform_of_other d other
    unasked := by
      intro transport clock bucket unsigned
      obtain ⟨result, unsent, kept⟩ :=
        (course_lookup transport clock bucket d).of_anonymous (anonymous.trans unsigned)
      refine ⟨result, unsent, kept, ?_⟩
      rw [holds, unsigned]
      rfl }

end Client

/-! ## A client of its own -/

namespace Sample

def noon : Calendar.Reading := ⟨⟨2026, 10, 19⟩, ⟨12, 0, 0, 0⟩, 0⟩

def options : Client.Options :=
  { accessKey := "AKID", secretKey := "SECRET", signatureVersion := .text "v2" }

/-- The client of these options, made at noon. -/
def client : Client where
  endpoint := ⟨"https", "", "s3.amazonaws.com", none, "", none, none⟩
  anonymous := false
  signer := ⟨.v2, ⟨"AKID", "SECRET"⟩⟩
  timeout := .float 30
  session := ⟨"bucketloc/0.1.0", ⟨1792411200, []⟩, true⟩
  cache := .empty
  counters := .initial

theorem new_client : Client.new options noon = .ok client := by
  have endpoint : Endpoint.parse options.endpoint = .ok client.endpoint :=
    toOption_eq_some.mp (by decide +kernel)
  have version : SignatureVersion.ofValue options.signatureVersion = .ok .v2 := rfl
  have userAgent : Client.userAgentOf options.userAgent = .ok "bucketloc/0.1.0" :=
    toOption_eq_some.mp (by decide +kernel)
  have jar : Http.CookieJar.new noon = ⟨1792411200, []⟩ := by decide +kernel
  simp only [Client.new, endpoint, version, userAgent, jar, mapError_ok, bind, Except.bind]
  rfl

/-- The query of the client for a bucket, before it is signed. -/
def plainQuery : Request where
  method := "GET"
  url := ⟨"https", "", "s3.amazonaws.com", none, "/photos", some "location=", none⟩
  headers := ⟨[("host", "s3.amazonaws.com"), ("accept", "*/*"),
    ("accept-encoding", "gzip, deflate"), ("connection", "keep-alive"),
    ("user-agent", "bucketloc/0.1.0")], true⟩
  body := []

theorem query_client : ∃ request, client.query noon "photos" = .ok request := by
  have built : client.unsignedQuery "photos" = .ok plainQuery :=
    toOption_eq_some.mp (by decide +kernel)
  have resource : Signing.V2.signingUrl plainQuery.url =
      .ok { plainQuery.url with query := some "location" } :=
    toOption_eq_some.mp (by decide +kernel)
  have time : noon.instant? = some ⟨⟨2026, 10, 19⟩, 12, 0, 0⟩ := by decide +kernel
  exact Client.query_of_v2 rfl (by decide) rfl built resource time

/-- A transport that answers that a bucket is in the default region. -/
def transport : Transport := fun _ => .ok (.make 200 none (.ofLines []) [])

end Sample

namespace Client

theorem followsAtlas_run_photos :
    FollowsAtlas Sample.client
      (Sample.client.run [.lookup Sample.transport Sample.noon "photos", .forget "photos"]).1
      (Sample.client.run [.lookup Sample.transport Sample.noon "photos", .forget "photos"]).2 :=
  followsAtlas_run Sample.new_client _

end Client

end BucketRegion
