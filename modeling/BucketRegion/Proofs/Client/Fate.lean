import BucketRegion.Proofs.Client.Failure
import BucketRegion.Proofs.Client.Interleaving

/-!
# What the bucket alone decides

Where the answer to a lookup depends on its bucket alone, so does what the lookup comes to, whatever
other lookups run beside it and in whatever order their steps are taken. Nothing is forgotten here:
the cache that the lookups leave then depends on their buckets alone as well.

The cookies of a client do change from answer to answer. They can make a lookup fail, but only with
an error that callers are not told to expect, and what is said here leaves these aside.
-/

set_option autoImplicit false

namespace BucketRegion

open Http (Transport Request Response)
open Http.Session (authorized)

/-! ## Addresses of redirects -/

namespace Http.Redirect

/-- Reads the address that a response redirects to, if it does. -/
def readAddress (response : Response) : Except Problem Unit :=
  match addressOf? response with
  | none => .ok ()
  | some address => ((Url.parse address).mapError Problem.address).map fun _ => ()

theorem readAddress_of_target {asked : Url} {address : String} {response : Response}
    (redirects : addressOf? response = some address) {url : Url}
    (named : target asked address = .ok url) : readAddress response = .ok () := by
  unfold target at named
  obtain ⟨parsed, read, _⟩ := bind_eq_ok.mp named
  simp only [readAddress, redirects, read, Except.map]

theorem withHost_ne_address (asked url : Url) (e : UrlError) :
    withHost asked url ≠ .error (.address e) := by
  intro failing
  unfold withHost at failing
  split at failing
  · cases failing
  · rcases bind_eq_error.mp failing with unnamed | ⟨host, _, failing⟩
    · obtain ⟨_, _, other⟩ := mapError_eq_error.mp unnamed
      cases other
    · split at failing
      · cases failing
      · rcases bind_eq_error.mp failing with unnamed | ⟨asked, _, failing⟩
        · obtain ⟨_, _, other⟩ := mapError_eq_error.mp unnamed
          cases other
        · obtain ⟨_, _, other⟩ := mapError_eq_error.mp failing
          cases other

theorem resolved_ne_address (asked url : Url) (e : UrlError) :
    resolved asked url ≠ .error (.address e) := by
  intro failing
  unfold resolved at failing
  split at failing
  · obtain ⟨_, _, other⟩ := mapError_eq_error.mp failing
    cases other
  · cases failing

theorem withFragment_ne_address (asked url : Url) (e : UrlError) :
    withFragment asked url ≠ .error (.address e) := by
  intro failing
  unfold withFragment at failing
  dsimp only at failing
  split at failing
  · cases failing
  · obtain ⟨_, _, other⟩ := mapError_eq_error.mp failing
    cases other

theorem parse_of_target {asked : Url} {address : String} {e : UrlError}
    (failing : target asked address = .error (.address e)) :
    (Url.parse address).mapError Problem.address = .error (.address e) := by
  unfold target at failing
  rcases bind_eq_error.mp failing with unread | ⟨parsed, _, failing⟩
  · exact unread
  · rcases bind_eq_error.mp failing with hostless | ⟨named, _, failing⟩
    · exact absurd hostless (withHost_ne_address asked parsed e)
    · rcases bind_eq_error.mp failing with unresolved | ⟨joined, _, failing⟩
      · exact absurd unresolved (resolved_ne_address asked named e)
      · exact absurd failing (withFragment_ne_address asked joined e)

/-- A response that passes has an address that can be read, if it has one. -/
theorem readAddress_of_check {jar : CookieJar} {asked : Url} {response : Response}
    (passed : check jar asked response = .ok ()) : readAddress response = .ok () := by
  unfold check at passed
  split at passed
  · next none =>
      simp only [readAddress, none]
  · next address redirects =>
      obtain ⟨url, named, _⟩ := bind_eq_ok.mp passed
      exact readAddress_of_target redirects named

/-- Neither the cookies nor the URL that was asked decide whether an address is refused. -/
theorem readAddress_of_astray {jar : CookieJar} {asked : Url} {response : Response} {e : UrlError}
    (astray : check jar asked response = .error (.address e)) :
    readAddress response = .error (.address e) := by
  unfold check at astray
  split at astray
  · cases astray
  · next address redirects =>
      rcases bind_eq_error.mp astray with unnamed | ⟨url, _, astray⟩
      · have unread := parse_of_target unnamed
        simp only [readAddress, redirects, unread, Except.map]
      · rcases bind_eq_error.mp astray with hostless | ⟨host, _, astray⟩
        · obtain ⟨_, _, other⟩ := mapError_eq_error.mp hostless
          cases other
        · split at astray <;> cases astray

end Http.Redirect

/-! ## Fates -/

/-- What is answered to the query for each bucket. -/
abbrev Answers := String → Except Http.Failure Response

/-- A transport that gives one answer to all requests for the location of a bucket. -/
def Http.Transport.Gives (transport : Transport) (endpoint : Url) (bucket : String)
    (answer : Except Http.Failure Response) : Prop :=
  ∀ request : Request, Endpoint.locationUrl endpoint bucket = .ok request.url →
    transport request = answer

theorem Http.Transport.Gives.authorized {transport : Transport} {endpoint : Url} {bucket : String}
    {answer : Except Http.Failure Response} (gives : transport.Gives endpoint bucket answer)
    {request : Request} (located : Endpoint.locationUrl endpoint bucket = .ok request.url) :
    transport (Http.Session.authorized request) = answer := by
  apply gives
  rw [Http.Session.url_authorized]
  exact located

/-- Whether a lookup has come to a region or to an error that callers are told to expect. -/
def isReported : Except LookupError String → Bool
  | .ok _ => true
  | .error e => e.isExpected

namespace Client

/-- What the answer to the query for a bucket comes to. -/
def fateOf (bucket : String) (answer : Except Http.Failure Response) :
    Except LookupError String := do
  let response ← answer.mapError fun f => .send (.failure f)
  let _ ← (Http.Redirect.readAddress response).mapError fun p => .send (.redirect p)
  let body ← response.content.mapError .read
  (judge bucket response body).map Region.ofConstraint

/-- What a lookup of a bucket comes to if queries are answered so. -/
def fate (c : Client) (answers : Answers) (bucket : String) : Except LookupError String :=
  if c.anonymous then .ok Region.default
  else
    match c.cache.get? bucket with
    | some region => .ok region
    | none => fateOf bucket (answers bucket)

/-- A client that has to ask for a bucket. -/
structure Lacks (c : Client) (bucket : String) : Prop where
  signed : c.anonymous = false
  absent : c.cache.get? bucket = none

theorem Lacks.fate_eq {c : Client} {bucket : String} (lacks : c.Lacks bucket) (answers : Answers) :
    c.fate answers bucket = fateOf bucket (answers bucket) := by
  simp only [fate, lacks.signed, lacks.absent, Bool.false_eq_true, if_false]

theorem fate_of_held {c : Client} {bucket region : String} (signed : c.anonymous = false)
    (held : c.cache.get? bucket = some region) (answers : Answers) :
    c.fate answers bucket = .ok region := by
  simp only [fate, signed, held, Bool.false_eq_true, if_false]

section Answered

variable {bucket : String} {response : Response}

theorem fateOf_failure (bucket : String) (f : Http.Failure) :
    fateOf bucket (.error f) = .error (.send (.failure f)) := rfl

theorem fateOf_astray {p : Http.Redirect.Problem}
    (astray : Http.Redirect.readAddress response = .error p) :
    fateOf bucket (.ok response) = .error (.send (.redirect p)) := by
  simp only [fateOf, mapError_ok, bind, Except.bind, astray, mapError_error]

theorem fateOf_unread (passed : Http.Redirect.readAddress response = .ok ())
    {e : Response.ReadError} (fault : response.content = .error e) :
    fateOf bucket (.ok response) = .error (.read e) := by
  simp only [fateOf, mapError_ok, bind, Except.bind, passed, fault, mapError_error]

theorem fateOf_read (passed : Http.Redirect.readAddress response = .ok ()) {body : Bytes}
    (whole : response.content = .ok body) :
    fateOf bucket (.ok response) = (judge bucket response body).map Region.ofConstraint := by
  simp only [fateOf, mapError_ok, bind, Except.bind, passed, whole]

end Answered

end Client

/-- What is known of a lookup that has come to a phase, where `c` is the client as it was before
any of the lookups. -/
def Bound (c : Client) (answers : Answers) (bucket : String) : Phase → Prop
  | .begun => True
  | .missed => c.Lacks bucket
  | .asking request =>
      c.Lacks bucket ∧ Endpoint.locationUrl c.endpoint bucket = .ok request.url
  | .reading _ response =>
      c.Lacks bucket ∧ answers bucket = .ok response ∧
        Http.Redirect.readAddress response = .ok ()
  | .told constraint =>
      c.Lacks bucket ∧
        Client.fateOf bucket (answers bucket) = .ok (Region.ofConstraint constraint)
  | .ended result => isReported result = true → result = c.fate answers bucket

section Turns

variable {transport : Transport} {clock : Calendar.Reading} {bucket : String} {c d : Client}
  {answers : Answers} {phase : Phase} {move : Move}

theorem Bound.of_unexpected {e : LookupError} (unexpected : e.isExpected = false) :
    Bound c answers bucket (Client.failed e) := by
  intro reported
  rw [isReported, unexpected] at reported
  cases reported

theorem Bound.of_failed {e : LookupError} (failing : c.fate answers bucket = .error e) :
    Bound c answers bucket (Client.failed e) := fun _ => failing.symm

/-- A refused response either has an address that is refused by itself, or the error is one that
callers are not told to expect. -/
theorem Bound.of_refused {response : Response} {p : Http.Redirect.Problem} {jar : Http.CookieJar}
    {asked : Url} (lacks : c.Lacks bucket) (came : answers bucket = .ok response)
    (astray : Http.Redirect.check jar asked response = .error p) :
    Bound c answers bucket (Client.failed (.send (.redirect p))) := by
  cases p with
  | address e =>
      refine .of_failed ?_
      rw [lacks.fate_eq, came]
      exact Client.fateOf_astray (Http.Redirect.readAddress_of_astray astray)
  | url e => exact .of_unexpected rfl
  | host fault => exact .of_unexpected rfl
  | cookie problem => exact .of_unexpected rfl

/-- A step of a lookup keeps what is known of it: `d` is the client by now, whose cache holds what
`c` held and otherwise only regions that are the fates of their buckets. -/
theorem bound_of_turn (turn : Client.Turn transport clock bucket d phase move)
    (sameEndpoint : d.endpoint = c.endpoint) (sameKeys : d.anonymous = c.anonymous)
    (kept : ∀ region, c.cache.get? bucket = some region → d.cache.get? bucket = some region)
    (fated : ∀ region, d.cache.get? bucket = some region → c.anonymous = false →
      c.fate answers bucket = .ok region)
    (gives : transport.Gives c.endpoint bucket (answers bucket))
    (bound : Bound c answers bucket phase) : Bound c answers bucket move.phase := by
  cases turn with
  | anonymous unsigned =>
      intro _
      rw [sameKeys] at unsigned
      simp only [Client.fate, unsigned, if_true]
  | cached signed held =>
      intro _
      exact (fated _ held (sameKeys.symm.trans signed)).symm
  | missed signed absent =>
      -- What is missing now was missing before: nothing that `c` held has been lost.
      refine ⟨sameKeys.symm.trans signed, ?_⟩
      cases before : c.cache.get? bucket with
      | none => rfl
      | some region =>
          rw [kept region before] at absent
          cases absent
  | unqueried => exact .of_unexpected rfl
  | queried built =>
      have located := Client.url_query built
      rw [sameEndpoint] at located
      exact ⟨bound, located⟩
  | shut => exact .of_unexpected rfl
  | unanswered opened lost =>
      obtain ⟨lacks, located⟩ := bound
      have answer := gives.authorized located
      refine .of_failed ?_
      rw [lacks.fate_eq, ← answer, lost, Client.fateOf_failure]
  | refused opened came astray =>
      obtain ⟨lacks, located⟩ := bound
      have answer := gives.authorized located
      exact .of_refused lacks (answer.symm.trans came) astray
  | answered opened came passed =>
      obtain ⟨lacks, located⟩ := bound
      have answer := gives.authorized located
      exact ⟨lacks, answer.symm.trans came, Http.Redirect.readAddress_of_check passed⟩
  | unread fault =>
      obtain ⟨lacks, came, passed⟩ := bound
      refine .of_failed ?_
      rw [lacks.fate_eq, came, Client.fateOf_unread passed fault]
  | rejected whole judged =>
      obtain ⟨lacks, came, passed⟩ := bound
      refine .of_failed ?_
      rw [lacks.fate_eq, came, Client.fateOf_read passed whole, judged]
      rfl
  | accepted whole judged =>
      obtain ⟨lacks, came, passed⟩ := bound
      refine ⟨lacks, ?_⟩
      rw [came, Client.fateOf_read passed whole, judged]
      rfl
  | stored =>
      obtain ⟨lacks, told⟩ := bound
      intro _
      rw [lacks.fate_eq, told]
  | rested => exact bound

end Turns

namespace Shared

/-- The buckets that lookups have begun for, in order. -/
def asked (s : Shared) : List String := s.errands.map (·.bucket)

theorem mem_asked {s : Shared} {errand : Nat} {bucket : String} {phase : Phase}
    (there : s.errands[errand]? = some ⟨bucket, phase⟩) : bucket ∈ s.asked :=
  List.mem_map.mpr ⟨_, List.mem_of_getElem? there, rfl⟩

theorem map_bucket_set {errands : List Errand} {errand : Nat} {bucket : String} {phase : Phase}
    (there : errands[errand]? = some ⟨bucket, phase⟩) (after : Phase) :
    (errands.set errand ⟨bucket, after⟩).map (·.bucket) = errands.map (·.bucket) := by
  obtain ⟨within, same⟩ := List.getElem?_eq_some_iff.mp there
  rw [List.map_set]
  refine List.ext_getElem? fun other => ?_
  rw [List.getElem?_set]
  split
  · next here =>
      subst here
      simp [within, same]
  · rfl

/-- The next step of some lookups that are answered by their buckets alone. -/
def Proper (c : Client) (answers : Answers) (s : Shared) : Step → Prop
  | .begin _ => True
  | .advance errand transport _ => ∀ bucket phase, s.errands[errand]? = some ⟨bucket, phase⟩ →
      transport.Gives c.endpoint bucket (answers bucket)
  | .forget _ => False

/-- What holds of a client whose lookups are answered by their buckets alone, where `c` is the
client as it was before them. -/
structure Fated (c : Client) (answers : Answers) (s : Shared) : Prop where
  endpoint : s.client.endpoint = c.endpoint
  anonymous : s.client.anonymous = c.anonymous
  kept : ∀ bucket region, c.cache.get? bucket = some region →
    s.client.cache.get? bucket = some region
  added : ∀ bucket region, c.cache.get? bucket = none →
    s.client.cache.get? bucket = some region →
      c.Lacks bucket ∧ c.fate answers bucket = .ok region ∧ bucket ∈ s.asked
  stored : ∀ (errand : Nat) (bucket region : String), c.anonymous = false →
    s.errands[errand]? = some ⟨bucket, .ended (.ok region)⟩ →
      (s.client.cache.get? bucket).isSome = true
  bound : ∀ (errand : Nat) (bucket : String) (phase : Phase),
    s.errands[errand]? = some ⟨bucket, phase⟩ → Bound c answers bucket phase

variable {c : Client} {answers : Answers} {s s' : Shared} {next : Step}

theorem fated_start (c : Client) (answers : Answers) : Fated c answers (start c) where
  endpoint := rfl
  anonymous := rfl
  kept := fun _ _ held => held
  added := by
    intro bucket region absent held
    simp [start, absent] at held
  stored := by
    intro errand bucket region _ there
    simp [start] at there
  bound := by
    intro errand bucket phase there
    simp [start] at there

theorem Fated.fate_of_held (fated : Fated c answers s) {bucket region : String}
    (held : s.client.cache.get? bucket = some region) (signed : c.anonymous = false) :
    c.fate answers bucket = .ok region := by
  cases before : c.cache.get? bucket with
  | none => exact (fated.added bucket region before held).2.1
  | some first =>
      rw [fated.kept bucket first before] at held
      cases held
      exact Client.fate_of_held signed before answers

theorem Fated.began (fated : Fated c answers s) (bucket : String) :
    Fated c answers { s with errands := s.errands ++ [⟨bucket, .begun⟩] } := by
  refine ⟨fated.endpoint, fated.anonymous, fated.kept, ?_, ?_, ?_⟩
  · intro other region absent held
    obtain ⟨lacks, fate, asked⟩ := fated.added other region absent held
    exact ⟨lacks, fate, by simpa [Shared.asked] using Or.inl (List.mem_map.mp asked)⟩
  · intro errand other region signed there
    rw [getElem?_began] at there
    split at there
    · cases there
    · exact fated.stored errand other region signed there
  · intro errand other phase there
    rw [getElem?_began] at there
    split at there
    · cases there
      trivial
    · exact fated.bound errand other phase there

section Moved

variable {transport : Transport} {clock : Calendar.Reading} {errand : Nat} {bucket : String}
  {phase : Phase} {move : Move}

theorem Fated.kept_moved (fated : Fated c answers s)
    (here : s.errands[errand]? = some ⟨bucket, phase⟩)
    (turn : Client.Turn transport clock bucket s.client phase move) {other region : String}
    (held : c.cache.get? other = some region) :
    move.client.cache.get? other = some region := by
  rw [turn.cache_eq]
  cases phase with
  | told constraint =>
      simp only [Client.cacheAfter, LocationCache.get?_set]
      split
      · next same =>
          -- Only buckets that the client lacked at first are stored.
          subst same
          have lacks := (fated.bound errand other _ here).1
          rw [lacks.absent] at held
          cases held
      · exact fated.kept other region held
  | _ => exact fated.kept other region held

theorem Fated.added_moved (fated : Fated c answers s)
    (here : s.errands[errand]? = some ⟨bucket, phase⟩)
    (turn : Client.Turn transport clock bucket s.client phase move) {other region : String}
    (absent : c.cache.get? other = none) (held : move.client.cache.get? other = some region) :
    c.Lacks other ∧ c.fate answers other = .ok region ∧ other ∈ s.asked := by
  rw [turn.cache_eq] at held
  cases phase with
  | told constraint =>
      simp only [Client.cacheAfter, LocationCache.get?_set] at held
      split at held
      · next same =>
          subst same
          obtain ⟨lacks, told⟩ := fated.bound errand other _ here
          refine ⟨lacks, ?_, mem_asked here⟩
          rw [lacks.fate_eq, told]
          cases held
          rfl
      · exact fated.added other region absent held
  | _ => exact fated.added other region absent held

theorem Fated.stored_moved (fated : Fated c answers s)
    (here : s.errands[errand]? = some ⟨bucket, phase⟩)
    (turn : Client.Turn transport clock bucket s.client phase move) (signed : c.anonymous = false)
    {other : Nat} {asked region : String}
    (there : (s.errands.set errand ⟨bucket, move.phase⟩)[other]? =
      some ⟨asked, .ended (.ok region)⟩) :
    (move.client.cache.get? asked).isSome = true := by
  have grown : (s.client.cache.get? asked).isSome = true →
      (move.client.cache.get? asked).isSome = true := by
    intro present
    rw [turn.cache_eq]
    cases phase with
    | told constraint =>
        simp only [Client.cacheAfter, LocationCache.get?_set]
        split
        · rfl
        · exact present
    | _ => exact present
  rw [getElem?_moved here] at there
  split at there
  · cases turn with
    | anonymous unsigned =>
        rw [fated.anonymous, signed] at unsigned
        cases unsigned
    | cached _ held =>
        cases there
        exact grown (by rw [held]; rfl)
    | stored =>
        cases there
        simp
    | rested =>
        cases there
        exact grown (fated.stored errand _ region signed here)
    | _ => cases there
  · exact grown (fated.stored other asked region signed there)

end Moved

theorem Fated.shift (fated : Fated c answers s) (shift : Shift s next s')
    (proper : Proper c answers s next) : Fated c answers s' := by
  cases shift with
  | began => exact fated.began _
  | idle => exact fated
  | @moved errand transport clock bucket phase move here turn =>
      have make := turn.sameMake
      refine ⟨make.endpoint.trans fated.endpoint, make.anonymous.trans fated.anonymous, ?_, ?_, ?_,
        ?_⟩
      · intro other region held
        exact fated.kept_moved here turn held
      · intro other region absent held
        have same := map_bucket_set here move.phase
        simp only [asked, same]
        exact fated.added_moved here turn absent held
      · intro other asked region signed there
        exact fated.stored_moved here turn signed there
      · intro other asked after there
        rw [getElem?_moved here] at there
        split at there
        · cases there
          exact bound_of_turn turn fated.endpoint fated.anonymous (fated.kept bucket)
            (fun region held => fated.fate_of_held held) (proper bucket phase here)
            (fated.bound errand bucket phase here)
        · exact fated.bound other asked after there
  | forgot => exact proper.elim

theorem Fated.result_eq (fated : Fated c answers s) {errand : Nat} {bucket : String}
    {result : Except LookupError String}
    (there : s.errands[errand]? = some ⟨bucket, .ended result⟩)
    (reported : isReported result = true) : result = c.fate answers bucket :=
  fated.bound errand bucket _ there reported

/-- All lookups are over, as callers are told to expect. -/
def AllReported (s : Shared) : Prop :=
  ∀ (errand : Nat) (bucket : String) (phase : Phase), s.errands[errand]? = some ⟨bucket, phase⟩ →
    ∃ result, phase = .ended result ∧ isReported result = true

/-- The cache that lookups leave: what it held before, and of the buckets that were asked for the
regions that are their fates. -/
theorem Fated.get?_cache (fated : Fated c answers s) (finished : AllReported s) (bucket : String) :
    s.client.cache.get? bucket = (c.cache.get? bucket).or
      (if c.anonymous = false ∧ bucket ∈ s.asked then (c.fate answers bucket).toOption
        else none) := by
  cases before : c.cache.get? bucket with
  | some region => exact fated.kept bucket region before
  | none =>
      rw [Option.none_or]
      cases now : s.client.cache.get? bucket with
      | some region =>
          obtain ⟨lacks, fate, asked⟩ := fated.added bucket region before now
          rw [if_pos ⟨lacks.signed, asked⟩, fate]
          rfl
      | none =>
          split
          · next looked =>
              obtain ⟨⟨named, phase⟩, member, same⟩ := List.mem_map.mp looked.2
              obtain ⟨errand, there⟩ := List.mem_iff_getElem?.mp member
              dsimp only at same
              subst same
              obtain ⟨result, ended, reported⟩ := finished errand named phase there
              subst ended
              rw [← fated.result_eq there reported]
              cases result with
              | error e => rfl
              | ok region =>
                  have present := fated.stored errand named region looked.1 there
                  rw [now] at present
                  cases present
          · rfl

end Shared

end BucketRegion
