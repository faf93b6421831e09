import BucketRegion.Proofs.Client.Run
import BucketRegion.Proofs.Signing.Headers

/-!
# What one answer leaves for the next query

Besides its cache a client carries cookies from one exchange to the next. They are all that a query
depends on: where none of them suits, the query for a bucket is that of a client which has looked
nothing up, and where one does, it differs in the lines of the cookies and of the signature only.
-/

set_option autoImplicit false

namespace BucketRegion

open Http (Transport Request Response Place)
open Http.Session (authorized)

/-! ## Cookies after lookups -/

/-- Whether a response asks for a cookie to be kept. -/
def Http.Response.setsCookies (response : Response) : Bool :=
  response.headers.lines.any fun line => Text.lower line.1 == "set-cookie"

theorem Http.CookieJar.learn_of_plain {response : Response} (plain : response.setsCookies = false)
    (jar : CookieJar) (place : Place) : jar.learn place response = jar := by
  have none : headersOf .older response = [] := by
    rw [headersOf, List.map_eq_nil_iff, List.filter_eq_nil_iff]
    intro line member found
    have set : response.setsCookies = true := List.any_eq_true.mpr ⟨line, member, found⟩
    rw [plain] at set
    cases set
  rw [learn, none]

theorem Http.CookieJar.header?_of_empty {jar : CookieJar} (empty : jar.domains = [])
    (place : Place) : jar.header? place = none := by
  simp [header?, cookies, empty]

namespace Journal

def received (journal : Journal) : List Response :=
  journal.filterMap fun
    | .receive response => some response
    | _ => none

theorem received_append (first second : Journal) :
    received (first ++ second) = first.received ++ second.received :=
  List.filterMap_append

@[simp] theorem received_nil : received [] = [] := rfl

@[simp] theorem received_send (request : Request) (rest : Journal) :
    received (.send request :: rest) = rest.received := rfl

@[simp] theorem received_receive (response : Response) (rest : Journal) :
    received (.receive response :: rest) = response :: rest.received := rfl

@[simp] theorem received_close (rest : Journal) : received (.close :: rest) = rest.received := rfl

@[simp] theorem received_report (event : Event) (rest : Journal) :
    received (.report event :: rest) = rest.received := rfl

end Journal

def Done.received : Done → List Response
  | .lookup _ _ _ journal => journal.received
  | _ => []

/-- What a lookup makes of a session, by the response that has come if one has. -/
inductive Learnt (endpoint : Url) (bucket : String) (before : Http.Session) :
    Http.Session → List Response → Prop where
  | nothing : Learnt endpoint bucket before before []
  | answer {url : Url} {response : Response}
      (located : Endpoint.locationUrl endpoint bucket = .ok url) :
      Learnt endpoint bucket before
        { before with jar := before.jar.learn (.ofUrl url) response } [response]

namespace Client

variable {transport : Transport} {clock : Calendar.Reading} {bucket : String} {c d : Client}
  {phase : Phase} {move : Move} {outcome : Outcome (Except LookupError String)}

@[simp] theorem received_transportTrouble (c : Client) (bucket message : String)
    (kind : Http.FailureKind) : (c.transportTrouble bucket message kind).2.received = [] := by
  unfold transportTrouble
  split <;> rfl

theorem session_transportTrouble (c : Client) (bucket message : String)
    (kind : Http.FailureKind) :
    (c.transportTrouble bucket message kind).1.session = c.session := by
  unfold transportTrouble
  split <;> rfl

/-- Asking teaches a client what the response says, also if it is then refused. -/
theorem Turn.learnt_of_asking {request : Request}
    (turn : Turn transport clock bucket c (.asking request) move)
    (located : Endpoint.locationUrl c.endpoint bucket = .ok request.url) :
    Learnt c.endpoint bucket c.session move.client.session move.journal.received := by
  have named : (authorized request).url = request.url := Http.Session.url_authorized request
  cases turn with
  | shut => exact .nothing
  | unanswered =>
      simp only [session_transportTrouble, Journal.received_send, Journal.received_append,
        received_transportTrouble]
      exact .nothing
  | refused =>
      simp only [session_transportTrouble, Journal.received_send, Journal.received_receive,
        Journal.received_close, Journal.received_append, received_transportTrouble]
      rw [← named] at located
      exact .answer located
  | answered =>
      rw [← named] at located
      exact .answer located

theorem Turn.still (turn : Turn transport clock bucket c phase move)
    (other : ∀ request, phase ≠ .asking request) :
    move.client.session = c.session ∧ move.journal.received = [] := by
  cases turn with
  | shut => exact absurd rfl (other _)
  | unanswered => exact absurd rfl (other _)
  | refused => exact absurd rfl (other _)
  | answered => exact absurd rfl (other _)
  | unread => simp [session_transportTrouble, Journal.received_append, spanEnd]
  | @rejected _ response _ e =>
      obtain ⟨counters, counted⟩ := countUndecodable_counts (c.countStatus response) e
      rw [counted]
      exact ⟨rfl, rfl⟩
  | _ => exact ⟨rfl, rfl⟩

/-- Whether the exchange of a lookup is over. -/
def exchanged : Phase → Bool
  | .reading _ _ => true
  | .told _ => true
  | .ended _ => true
  | _ => false

theorem Turn.exchanged (turn : Turn transport clock bucket c phase move)
    (finished : Client.exchanged phase = true) : Client.exchanged move.phase = true := by
  cases turn <;> first | rfl | cases finished

theorem Turn.located (turn : Turn transport clock bucket c phase move) {request : Request}
    (asking : move.phase = .asking request) :
    Endpoint.locationUrl c.endpoint bucket = .ok request.url := by
  cases turn with
  | queried built =>
      cases asking
      exact url_query built
  | _ => cases asking

theorem Comes.still (comes : Comes transport clock bucket c phase outcome)
    (finished : exchanged phase = true) :
    outcome.client.session = c.session ∧ outcome.journal.received = [] := by
  induction comes with
  | ended => exact ⟨rfl, rfl⟩
  | step turn rest ih =>
      obtain ⟨session, unheard⟩ := ih (turn.exchanged finished)
      obtain ⟨same, none⟩ := turn.still (by rintro request rfl; cases finished)
      exact ⟨session.trans same, by rw [Journal.received_append, none, unheard]; rfl⟩

theorem Comes.learnt (comes : Comes transport clock bucket c phase outcome)
    (located : ∀ request, phase = .asking request →
      Endpoint.locationUrl c.endpoint bucket = .ok request.url) :
    Learnt c.endpoint bucket c.session outcome.client.session outcome.journal.received := by
  induction comes with
  | ended => exact .nothing
  | @step c phase move outcome turn rest ih =>
      cases phase with
      | asking request =>
          -- The one step that can teach anything; after it nothing is heard any more.
          have finished : exchanged move.phase = true := by
            obtain ⟨e, failing⟩ | ⟨sent, response, answered⟩ := turn.of_asking
            · rw [failing]
              rfl
            · rw [answered]
              rfl
          obtain ⟨session, unheard⟩ := rest.still finished
          rw [session, Journal.received_append, unheard, List.append_nil]
          exact turn.learnt_of_asking (located request rfl)
      | _ =>
          obtain ⟨same, none⟩ := turn.still (by simp)
          have endpoint := turn.sameMake.endpoint
          rw [Journal.received_append, none, List.nil_append, ← same, ← endpoint]
          exact ih fun request asking => endpoint ▸ turn.located asking

/-- A lookup teaches a client what its response says, and nothing else. -/
theorem learnt_lookup (transport : Transport) (clock : Calendar.Reading) (bucket : String)
    (c : Client) :
    Learnt c.endpoint bucket c.session (c.lookup transport clock bucket).client.session
      (c.lookup transport clock bucket).journal.received :=
  (comes_lookup transport clock bucket c).learnt fun _ asking => by cases asking

/-! ## Cookies after any calls -/

/-- Two clients of the same options, both open or both closed, with different pasts. -/
structure SameOptions (c d : Client) : Prop where
  endpoint : d.endpoint = c.endpoint
  anonymous : d.anonymous = c.anonymous
  signer : d.signer = c.signer
  isOpen : d.session.isOpen = c.session.isOpen
  userAgent : d.session.userAgent = c.session.userAgent

theorem SameOptions.trans {c d e : Client} (first : SameOptions c d) (second : SameOptions d e) :
    SameOptions c e :=
  ⟨second.endpoint.trans first.endpoint, second.anonymous.trans first.anonymous,
    second.signer.trans first.signer, second.isOpen.trans first.isOpen,
    second.userAgent.trans first.userAgent⟩

theorem sameOptions_perform (c : Client) {call : Call} (open' : call ≠ .close) :
    SameOptions c (c.perform call).1 := by
  cases call with
  | lookup transport clock bucket =>
      have make := (course_lookup transport clock bucket c).sameMake
      have learnt := learnt_lookup transport clock bucket c
      refine ⟨make.endpoint, make.anonymous, make.signer, make.isOpen, ?_⟩
      simp only [perform]
      generalize (c.lookup transport clock bucket).client.session = session at learnt
      generalize (c.lookup transport clock bucket).journal.received = received at learnt
      cases learnt <;> rfl
  | forget bucket => exact ⟨rfl, rfl, rfl, rfl, rfl⟩
  | close => exact absurd rfl open'

theorem jar_perform (c : Client) {call : Call}
    (plain : ∀ response ∈ (c.perform call).2.received, response.setsCookies = false) :
    (c.perform call).1.session.jar = c.session.jar := by
  cases call with
  | lookup transport clock bucket =>
      have learnt := learnt_lookup transport clock bucket c
      simp only [perform, Done.received] at plain ⊢
      generalize (c.lookup transport clock bucket).client.session = session at learnt
      generalize (c.lookup transport clock bucket).journal.received = received at learnt plain
      cases learnt with
      | nothing => rfl
      | answer located =>
          exact Http.CookieJar.learn_of_plain (plain _ List.mem_cons_self) _ _
  | forget bucket => rfl
  | close => rfl

theorem sameOptions_run (c : Client) {calls : List Call} (open' : .close ∉ calls) :
    SameOptions c (c.run calls).1 := by
  induction calls using List.reverseRecOn with
  | nil => exact ⟨rfl, rfl, rfl, rfl, rfl⟩
  | append_singleton calls call ih =>
      rw [run_snoc]
      have earlier := ih fun member => open' (List.mem_append_left _ member)
      refine earlier.trans (sameOptions_perform _ ?_)
      rintro rfl
      exact open' (List.mem_append_right _ (List.mem_singleton.mpr rfl))

theorem jar_run (c : Client) {calls : List Call}
    (plain : ∀ done ∈ (c.run calls).2, ∀ response ∈ done.received,
      response.setsCookies = false) :
    (c.run calls).1.session.jar = c.session.jar := by
  induction calls using List.reverseRecOn with
  | nil => rfl
  | append_singleton calls call ih =>
      rw [run_snoc] at plain ⊢
      have earlier := ih fun done member => plain done (List.mem_append_left _ member)
      refine (jar_perform _ ?_).trans earlier
      exact plain _ (List.mem_append_right _ (List.mem_singleton.mpr rfl))

end Client

/-! ## Requests with and without cookies -/

namespace Http

/-- Names of lines that do not depend on cookies: a signature may be over the cookies. -/
def isApart (name : String) : Bool := name != "cookie" && name != "authorization"

def Headers.apart (h : Headers) : List (String × String) := h.lines.filter fun line => isApart line.1

/-- Two requests that differ at most in the lines of cookies and of the signature. -/
structure Request.AlikeApart (r r' : Request) : Prop where
  method : r'.method = r.method
  url : r'.url = r.url
  body : r'.body = r.body
  lines : r'.headers.apart = r.headers.apart

theorem Request.AlikeApart.filter_eq {r r' : Request} (alike : AlikeApart r r') {name : String}
    (kept : isApart name = true) :
    (r'.headers.lines.filter fun line => line.1 == name) =
      r.headers.lines.filter fun line => line.1 == name := by
  have within : ∀ h : Headers, (h.lines.filter fun line => line.1 == name) =
      h.apart.filter fun line => line.1 == name := by
    intro h
    rw [Headers.apart, List.filter_filter]
    refine List.filter_congr fun line _ => ?_
    cases found : line.1 == name with
    | false => rfl
    | true => rw [beq_iff_eq.mp found, kept, Bool.and_self]
  rw [within, within, alike.lines]

theorem Request.AlikeApart.contains_eq {r r' : Request} (alike : AlikeApart r r') {name : String}
    (kept : isApart name = true) : r'.headers.contains name = r.headers.contains name := by
  unfold Headers.contains
  rw [Headers.any_eq_isEmpty_filter, Headers.any_eq_isEmpty_filter, alike.filter_eq kept]

theorem Request.AlikeApart.get?_eq {r r' : Request} (alike : AlikeApart r r') {name : String}
    (kept : isApart name = true) : r'.headers.get? name = r.headers.get? name := by
  unfold Headers.get? Headers.valuesOf
  rw [alike.filter_eq kept]

/-- The lines that stand before those of the session. -/
def Request.frontLines (method : String) (url : Url) (headers : Headers) :
    Except RequestError (List (String × String)) :=
  (hostLine url headers).map fun host =>
    host ++ if !(headers.contains "content-length" || headers.contains "transfer-encoding") &&
      tellsSize (Text.upper method) then [("content-length", "0")] else []

theorem Request.build_empty (method : String) (url : Url) (headers : Headers) :
    build method url headers [] = (frontLines method url headers).map fun front =>
      ⟨Text.upper method, url, Headers.ofLines (front ++ headers.lines), []⟩ := by
  unfold build frontLines
  cases hostLine url headers with
  | error e => rfl
  | ok host => simp [Except.map, bind, Except.bind, pure, Except.pure]

theorem Request.frontLines_congr {headers headers' : Headers}
    (same : ∀ name, name ≠ "cookie" → headers'.contains name = headers.contains name)
    (method : String) (url : Url) :
    frontLines method url headers' = frontLines method url headers := by
  unfold frontLines hostLine
  rw [same "host" (by decide), same "content-length" (by decide),
    same "transfer-encoding" (by decide)]

theorem Request.names_hostLine {url : Url} {headers : Headers} {host : List (String × String)}
    (made : hostLine url headers = .ok host) : ∀ line ∈ host, line.1 = "host" := by
  unfold hostLine at made
  split at made
  · cases made
    simp
  · split at made
    · cases made
    · cases made
      simp
    · split at made
      · cases made
      · cases made
        simp

theorem Request.names_frontLines {method : String} {url : Url} {headers : Headers}
    {front : List (String × String)} (made : frontLines method url headers = .ok front) :
    ∀ line ∈ front, line.1 = "host" ∨ line.1 = "content-length" := by
  unfold frontLines at made
  cases named : hostLine url headers with
  | error e =>
      rw [named] at made
      cases made
  | ok host =>
      rw [named] at made
      cases made
      intro line member
      rcases List.mem_append.mp member with first | size
      · exact .inl (names_hostLine named line first)
      · split at size
        · cases List.mem_singleton.mp size
          exact .inr rfl
        · cases size

/-! ## Signatures -/

section Set

variable {r r' s s' : Request} {name value value' : String}

theorem Request.contains_set (done : r.set name value = .ok s) {other : String}
    (different : other ≠ name) : s.headers.contains other = r.headers.contains other := by
  obtain ⟨_, _, _, lines⟩ := Request.eq_of_set done
  rw [Headers.contains, lines, Headers.any_putLine_of_other different]
  rfl

/-- Setting the same value keeps requests alike, and so do two signatures. -/
theorem Request.AlikeApart.set (alike : AlikeApart r r') (done : r.set name value = .ok s)
    (done' : r'.set name value' = .ok s') (same : isApart name = true → value' = value) :
    AlikeApart s s' := by
  obtain ⟨method, url, body, lines⟩ := Request.eq_of_set done
  obtain ⟨method', url', body', lines'⟩ := Request.eq_of_set done'
  refine ⟨?_, ?_, ?_, ?_⟩
  · rw [method', method, alike.method]
  · rw [url', url, alike.url]
  · rw [body', body, alike.body]
  · unfold Headers.apart
    rw [lines', lines]
    cases kept : isApart name with
    | false =>
        rw [Headers.filter_putLine_of_other isApart kept,
          Headers.filter_putLine_of_other isApart kept]
        exact alike.lines
    | true =>
        rw [Headers.filter_putLine_of_kept isApart kept,
          Headers.filter_putLine_of_kept isApart kept, same kept]
        exact congrArg _ alike.lines

end Set

end Http

namespace Signing

open Http (Request)
open Http.Request (AlikeApart)

variable {credentials : Credentials} {clock : Calendar.Reading} {region : String}
  {request request' : Request}

theorem V4.payloadHash_congr (alike : AlikeApart request request') :
    payloadHash request' = payloadHash request := by
  rw [payloadHash, payloadHash, alike.get?_eq (by decide), alike.body]

theorem V4.alike_sign (alike : AlikeApart request request')
    (returned : (sign credentials clock region request).problem = none)
    (returned' : (sign credentials clock region request').problem = none) :
    AlikeApart (sign credentials clock region request).request
      (sign credentials clock region request').request := by
  obtain ⟨instant, hashed, dated, signed, _, signs⟩ := signs_of_sign returned
  obtain ⟨instant', hashed', dated', signed', _, signs'⟩ := signs_of_sign returned'
  have sameInstant : instant' = instant :=
    Option.some.inj (signs'.time.symm.trans signs.time)
  subst sameInstant
  have hashes : AlikeApart hashed hashed' := by
    have hash := signs.hash
    have hash' := signs'.hash
    rw [alike.contains_eq (by decide)] at hash'
    split at hash
    · next given =>
        rw [if_pos given] at hash'
        rw [hash, hash']
        exact alike
    · next missing =>
        rw [if_neg missing] at hash'
        exact alike.set hash hash' fun _ => V4.payloadHash_congr alike
  have dates := hashes.set signs.date signs'.date fun _ => rfl
  exact dates.set signs.signature signs'.signature fun kept => by cases kept

theorem V2.alike_sign (alike : AlikeApart request request')
    (returned : (sign credentials clock request).problem = none)
    (returned' : (sign credentials clock request').problem = none) :
    AlikeApart (sign credentials clock request).request
      (sign credentials clock request').request := by
  obtain ⟨instant, dated, value, time, date, put⟩ := (signs_of_sign returned).dated
  obtain ⟨instant', dated', value', time', date', put'⟩ := (signs_of_sign returned').dated
  have sameInstant : instant' = instant := Option.some.inj (time'.symm.trans time)
  subst sameInstant
  exact (alike.set date date' fun _ => rfl).set put put' fun kept => by cases kept

theorem Signer.alike_sign {signer : Signer} (alike : AlikeApart request request')
    (returned : (signer.sign clock region request).problem = none)
    (returned' : (signer.sign clock region request').problem = none) :
    AlikeApart (signer.sign clock region request).request
      (signer.sign clock region request').request := by
  cases version : signer.version with
  | v4 =>
      rw [sign_of_v4 version] at returned returned' ⊢
      rw [sign_of_v4 version]
      exact V4.alike_sign alike returned returned'
  | v2 =>
      rw [sign_of_v2 version] at returned returned' ⊢
      rw [sign_of_v2 version]
      exact V2.alike_sign alike returned returned'

theorem Signer.contains_cookie_sign {signer : Signer}
    (returned : (signer.sign clock region request).problem = none) :
    (signer.sign clock region request).request.headers.contains "cookie" =
      request.headers.contains "cookie" := by
  cases version : signer.version with
  | v4 =>
      rw [sign_of_v4 version] at returned ⊢
      obtain ⟨instant, hashed, dated, signed, _, signs⟩ := V4.signs_of_sign returned
      rw [Request.contains_set signs.signature (by decide),
        Request.contains_set signs.date (by decide)]
      have hash := signs.hash
      split at hash
      · rw [hash]
      · exact Request.contains_set hash (by decide)
  | v2 =>
      rw [sign_of_v2 version] at returned ⊢
      obtain ⟨instant, dated, value, _, date, put⟩ := (V2.signs_of_sign returned).dated
      rw [Request.contains_set put (by decide), Request.contains_set date (by decide)]

end Signing

namespace Http

theorem Headers.ofLines_append (first second : List (String × String)) :
    (ofLines (first ++ second)).lines = (ofLines first).lines ++ (ofLines second).lines := by
  simp [ofLines]

/-- The line of the cookies that suit a URL, if there are any. -/
def Session.cookieLines (s : Session) (url : Url) : List (String × String) :=
  (s.jar.header? (.ofUrl url)).toList.map fun cookies => ("cookie", cookies)

/-- A request of a session: the line of the cookies stands last. -/
theorem Session.request_eq {s : Session} {url : Url} {request : Request}
    (made : s.request url = .ok request) :
    ∃ front, Request.frontLines "GET" url (.ofLines s.headerLines) = .ok front ∧
      request = ⟨Text.upper "GET", url,
        .ofLines (front ++ ((Headers.ofLines s.headerLines).lines ++ s.cookieLines url)), []⟩ := by
  unfold Session.request at made
  obtain ⟨headers, put, built⟩ := bind_eq_ok.mp made
  have put := mapError_eq_ok.mp put
  have plain : (Headers.ofLines s.headerLines).contains "cookie" = false := by
    simp only [Headers.contains, Headers.ofLines, headerLines, List.map_cons, List.map_nil,
      List.any_cons, List.any_nil]
    decide
  have lines : headers.lines = (Headers.ofLines s.headerLines).lines ++ s.cookieLines url := by
    unfold headersFor at put
    dsimp only at put
    unfold cookieLines
    split at put
    · next none =>
        cases put
        rw [none]
        exact (List.append_nil _).symm
    · next cookies some =>
        rw [some, Headers.lines_set put, Headers.putLine_of_absent plain]
        rfl
  -- So what the request is built from does not depend on the cookies.
  have others : ∀ name, name ≠ "cookie" →
      headers.contains name = (Headers.ofLines s.headerLines).contains name := by
    intro name different
    have apart : ("cookie" == name) = false := by simpa using fun equal => different (Eq.symm equal)
    unfold Headers.contains
    rw [lines, List.any_append]
    have none : (s.cookieLines url).any (fun line => line.1 == name) = false := by
      unfold cookieLines
      cases s.jar.header? (.ofUrl url) <;> simp [apart]
    rw [none, Bool.or_false]
  rw [Request.build_empty, Request.frontLines_congr others] at built
  cases named : Request.frontLines "GET" url (.ofLines s.headerLines) with
  | error e =>
      rw [named] at built
      cases built
  | ok front =>
      rw [named] at built
      cases built
      exact ⟨front, rfl, by rw [lines]⟩

/-- The names of the lines that a session puts into its requests besides cookies. -/
def Session.plainNames : List String :=
  ["host", "content-length", "accept", "accept-encoding", "connection", "user-agent"]

theorem Session.name_mem_plainNames {s : Session} {url : Url} {front : List (String × String)}
    (named : Request.frontLines "GET" url (.ofLines s.headerLines) = .ok front)
    {line : String × String}
    (member : line ∈ (Headers.ofLines (front ++ (Headers.ofLines s.headerLines).lines)).lines) :
    line.1 ∈ plainNames := by
  have small : ∀ name ∈ plainNames, Text.asciiLower name = name := by decide
  simp only [Headers.ofLines, List.map_append, List.mem_append, List.mem_map] at member
  rcases member with ⟨held, inFront, rfl⟩ | ⟨held, ⟨fixed, inBase, rfl⟩, rfl⟩
  · have known : held.1 ∈ plainNames := by
      rcases Request.names_frontLines named held inFront with host | size
      · rw [host]
        decide
      · rw [size]
        decide
    exact (small held.1 known).symm ▸ known
  · have known : fixed.1 ∈ plainNames := by
      simp only [headerLines, List.mem_cons, List.not_mem_nil, or_false] at inBase
      rcases inBase with rfl | rfl | rfl | rfl <;> simp [plainNames]
    dsimp only
    rw [small fixed.1 known, small fixed.1 known]
    exact known

theorem Session.contains_cookie_request {s : Session} {url : Url} {request : Request}
    (made : s.request url = .ok request) :
    request.headers.contains "cookie" = (s.jar.header? (.ofUrl url)).isSome := by
  obtain ⟨front, named, rfl⟩ := request_eq made
  have plain : (Headers.ofLines (front ++ (Headers.ofLines s.headerLines).lines)).lines.any
      (fun line => line.1 == "cookie") = false := by
    have others : ∀ name ∈ plainNames, ¬ (name == "cookie") = true := by decide
    rw [List.any_eq_false]
    exact fun line member => others line.1 (name_mem_plainNames named member)
  unfold Headers.contains
  rw [← List.append_assoc, Headers.ofLines_append, List.any_append, plain, Bool.false_or]
  unfold cookieLines
  cases s.jar.header? (.ofUrl url) with
  | none => rfl
  | some cookies =>
      have name : (Text.asciiLower "cookie" == "cookie") = true := by decide
      simp [Headers.ofLines, name]

theorem Session.alike_request {s s' : Session} {url : Url} {request request' : Request}
    (agent : s'.userAgent = s.userAgent) (made : s.request url = .ok request)
    (made' : s'.request url = .ok request') : request.AlikeApart request' := by
  obtain ⟨front, named, rfl⟩ := request_eq made
  obtain ⟨front', named', rfl⟩ := request_eq made'
  have sameLines : s'.headerLines = s.headerLines := by rw [headerLines, headerLines, agent]
  rw [sameLines] at named'
  cases named.symm.trans named'
  have dropped : ∀ t : Session, (Headers.ofLines (t.cookieLines url)).apart = [] := by
    intro t
    unfold cookieLines
    cases t.jar.header? (.ofUrl url) with
    | none => rfl
    | some cookies => rfl
  refine ⟨rfl, rfl, rfl, ?_⟩
  have base : ∀ t : Session, (Headers.ofLines (front ++
      ((Headers.ofLines s.headerLines).lines ++ t.cookieLines url))).apart =
        (Headers.ofLines (front ++ (Headers.ofLines s.headerLines).lines)).apart := by
    intro t
    have none := dropped t
    unfold Headers.apart at none ⊢
    rw [← List.append_assoc, Headers.ofLines_append, List.filter_append, none, List.append_nil]
  dsimp only
  rw [sameLines, base, base]

end Http

namespace Client

variable {c d : Client} {clock : Calendar.Reading} {bucket : String} {request request' : Request}

theorem query_eq_ok (signed : c.anonymous = false) (built : c.query clock bucket = .ok request) :
    ∃ url plain, Endpoint.locationUrl c.endpoint bucket = .ok url ∧
      c.session.request url = .ok plain ∧
      (c.signer.sign clock Region.default plain).problem = none ∧
      request = (c.signer.sign clock Region.default plain).request := by
  unfold query at built
  obtain ⟨plain, unsigned, done⟩ := bind_eq_ok.mp built
  obtain ⟨url, located, requested⟩ := bind_eq_ok.mp unsigned
  simp only [signed, Bool.false_eq_true, if_false] at done
  split at done
  · cases done
  · next returned =>
      cases done
      exact ⟨url, plain, mapError_eq_ok.mp located, mapError_eq_ok.mp requested, returned, rfl⟩

theorem contains_cookie_query (signed : c.anonymous = false)
    (built : c.query clock bucket = .ok request) :
    request.headers.contains "cookie" = (c.session.jar.header? (.ofUrl request.url)).isSome := by
  have named := url_query built
  obtain ⟨url, plain, located, requested, returned, rfl⟩ := query_eq_ok signed built
  cases located.symm.trans named
  rw [Signing.Signer.contains_cookie_sign returned]
  exact Http.Session.contains_cookie_request requested

theorem alike_query (same : SameOptions c d) (signed : c.anonymous = false)
    (built : c.query clock bucket = .ok request) (built' : d.query clock bucket = .ok request') :
    request.AlikeApart request' := by
  obtain ⟨url, plain, located, requested, returned, rfl⟩ := query_eq_ok signed built
  obtain ⟨url', plain', located', requested', returned', rfl⟩ :=
    query_eq_ok (same.anonymous.trans signed) built'
  rw [same.endpoint] at located'
  cases located.symm.trans located'
  rw [same.signer] at returned' ⊢
  exact Signing.Signer.alike_sign
    (Http.Session.alike_request same.userAgent requested requested') returned returned'

/-- Where no cookies suit, a query depends on the options alone. -/
theorem query_congr (same : SameOptions c d)
    (plain : ∀ url, Endpoint.locationUrl c.endpoint bucket = .ok url →
      c.session.jar.header? (.ofUrl url) = none ∧ d.session.jar.header? (.ofUrl url) = none) :
    d.query clock bucket = c.query clock bucket := by
  have unsigned : d.unsignedQuery bucket = c.unsignedQuery bucket := by
    unfold unsignedQuery
    rw [same.endpoint]
    cases located : Endpoint.locationUrl c.endpoint bucket with
    | error e => rfl
    | ok url =>
        obtain ⟨none, none'⟩ := plain url located
        simp only [mapError_ok, bind, Except.bind, Http.Session.request, Http.Session.headersFor,
          none, none', Http.Session.headerLines, same.userAgent]
  unfold query
  rw [unsigned, same.anonymous, same.signer]

theorem contains_cookie_authorized (request : Request) :
    (authorized request).headers.contains "cookie" = request.headers.contains "cookie" := by
  unfold Http.Session.authorized
  split
  · rfl
  · exact Http.Headers.any_putLine_of_other (by decide) _ _

/-! ## A client with a past and a fresh one -/

theorem sent_lookup (signed : c.anonymous = false) (opened : c.session.isOpen = true)
    (absent : c.cache.get? bucket = none) (transport : Transport) :
    (c.lookup transport clock bucket).journal.sent =
      (c.query clock bucket).toOption.toList.map authorized := by
  rw [(course_lookup transport clock bucket c).sent_eq signed absent, opened, if_pos rfl]

/-- Where the response to a query comes, the client hears it, also if it is then refused. -/
theorem mem_received_lookup {transport : Transport} {response : Response}
    (signed : c.anonymous = false) (absent : c.cache.get? bucket = none)
    (built : c.query clock bucket = .ok request) (opened : c.session.isOpen = true)
    (came : transport (authorized request) = .ok response) :
    response ∈ (c.lookup transport clock bucket).journal.received := by
  have course := course_lookup transport clock bucket c
  generalize c.lookup transport clock bucket = outcome at course
  cases course with
  | anonymous unsigned => simp [signed] at unsigned
  | cached _ held => simp [absent] at held
  | unqueried _ _ unbuilt =>
      rw [built] at unbuilt
      cases unbuilt
  | unanswered _ _ same asked =>
      cases Except.ok.inj (built.symm.trans same)
      cases asked with
      | shut closed =>
          have closed : c.session.isOpen = false := closed
          simp [opened] at closed
      | unanswered _ lost =>
          rw [came] at lost
          cases lost
      | refused _ other _ =>
          cases Except.ok.inj (came.symm.trans other)
          exact List.mem_cons_self
  | rejected _ _ same _ other =>
      cases Except.ok.inj (built.symm.trans same)
      cases Except.ok.inj (came.symm.trans other)
      exact List.mem_cons_self
  | resolved _ _ same _ other =>
      cases Except.ok.inj (built.symm.trans same)
      cases Except.ok.inj (came.symm.trans other)
      exact List.mem_cons_self

/-- A lookup hands over what the other client does if no cookie suits, and only then. -/
theorem sent_eq_iff (same : SameOptions c d) (signed : c.anonymous = false)
    (opened : c.session.isOpen = true) (empty : c.session.jar.domains = [])
    (fresh : c.cache.get? bucket = none) (absent : d.cache.get? bucket = none)
    (built : c.query clock bucket = .ok request) (transport : Transport) :
    (d.lookup transport clock bucket).journal.sent = (c.lookup transport clock bucket).journal.sent ↔
      d.session.jar.header? (.ofUrl request.url) = none := by
  have none := Http.CookieJar.header?_of_empty empty
  have signed' := same.anonymous.trans signed
  rw [sent_lookup signed opened fresh, sent_lookup signed' (same.isOpen.trans opened) absent, built]
  constructor
  · intro equal
    cases asked : d.query clock bucket with
    | error e =>
        rw [asked] at equal
        cases equal
    | ok request' =>
        rw [asked] at equal
        have equal : authorized request' = authorized request := (List.cons.inj equal).1
        have url : request'.url = request.url := by
          have urls := congrArg Request.url equal
          rwa [Http.Session.url_authorized, Http.Session.url_authorized] at urls
        -- The same requests have a line of cookies both or neither, and the fresh one has none.
        have cookies := congrArg (fun r : Request => r.headers.contains "cookie") equal
        simp only [contains_cookie_authorized] at cookies
        rw [contains_cookie_query signed' asked, contains_cookie_query signed built, none, url]
          at cookies
        simpa using cookies
  · intro unsuited
    have asked : d.query clock bucket = c.query clock bucket := by
      refine query_congr same fun url located => ⟨none _, ?_⟩
      cases (url_query built).symm.trans located
      exact unsuited
    rw [asked, built]

/-- What the queries of a client `d` after some calls have to do with those of a client `fresh` of
the same options that has made no calls, where both read the same clock. -/
structure AsksAlike (fresh d : Client) (history : List Done) : Prop where
  /-- The lookup hands over what the fresh client would exactly if no cookie suits. -/
  same_iff : ∀ transport clock bucket request, d.cache.get? bucket = none →
    fresh.query clock bucket = .ok request →
      ((d.lookup transport clock bucket).journal.sent =
          (fresh.lookup transport clock bucket).journal.sent ↔
        d.session.jar.header? (.ofUrl request.url) = none)
  sent : ∀ transport clock bucket request, fresh.query clock bucket = .ok request →
    (fresh.lookup transport clock bucket).journal.sent = [authorized request]
  /-- Apart from cookies and signature the requests are the same. -/
  apart : ∀ clock bucket request request', fresh.query clock bucket = .ok request →
    d.query clock bucket = .ok request' → request.AlikeApart request'
  /-- If no response has set a cookie, the requests are the same altogether. -/
  uncookied : (∀ done ∈ history, ∀ response ∈ done.received, response.setsCookies = false) →
    ∀ transport clock bucket, d.query clock bucket = fresh.query clock bucket ∧
      (d.cache.get? bucket = none → (d.lookup transport clock bucket).journal.sent =
        (fresh.lookup transport clock bucket).journal.sent)

theorem sameOptions_new {options : Options} {made made' : Calendar.Reading} {fresh : Client}
    (new : Client.new options made = .ok c) (new' : Client.new options made' = .ok fresh) :
    SameOptions fresh c ∧ c.session.jar.domains = [] ∧ c.session.isOpen = true := by
  unfold Client.new at new new'
  obtain ⟨endpoint, parsed, new⟩ := bind_eq_ok.mp new
  obtain ⟨version, named, new⟩ := bind_eq_ok.mp new
  obtain ⟨userAgent, told, new⟩ := bind_eq_ok.mp new
  rw [parsed] at new'
  obtain ⟨_, same, new'⟩ := bind_eq_ok.mp new'
  cases same
  rw [named] at new'
  obtain ⟨_, same, new'⟩ := bind_eq_ok.mp new'
  cases same
  rw [told] at new'
  obtain ⟨_, same, new'⟩ := bind_eq_ok.mp new'
  cases same
  cases new
  cases new'
  exact ⟨⟨rfl, rfl, rfl, rfl, rfl⟩, rfl, rfl⟩

/-- After any lookups and forgettings a client with keys asks as a fresh one does, but for the
cookies that it has been given. -/
theorem asksAlike_run {options : Options} {made made' : Calendar.Reading} {fresh : Client}
    (new : Client.new options made = .ok c) (new' : Client.new options made' = .ok fresh)
    (signed : c.anonymous = false) {calls : List Call} (unclosed : .close ∉ calls) :
    AsksAlike fresh (c.run calls).1 (c.run calls).2 := by
  obtain ⟨older, bare, _⟩ := sameOptions_new new new'
  obtain ⟨newer, empty, opened⟩ := sameOptions_new new' new
  have same := older.trans (sameOptions_run c unclosed)
  have signed : fresh.anonymous = false := newer.anonymous.trans signed
  have lacking : ∀ bucket, fresh.cache.get? bucket = none := by
    intro bucket
    rw [cache_new new']
    rfl
  exact {
    same_iff := fun transport clock bucket request absent built =>
      sent_eq_iff same signed opened empty (lacking bucket) absent built transport
    sent := by
      intro transport clock bucket request built
      rw [sent_lookup signed opened (lacking bucket), built]
      rfl
    apart := fun clock bucket request request' built built' =>
      alike_query same signed built built'
    uncookied := by
      intro plain transport clock bucket
      have jar := jar_run c plain
      have asked : (c.run calls).1.query clock bucket = fresh.query clock bucket := by
        refine query_congr same fun url _ => ⟨?_, ?_⟩
        · exact Http.CookieJar.header?_of_empty empty _
        · rw [jar]
          exact Http.CookieJar.header?_of_empty bare _
      refine ⟨asked, fun absent => ?_⟩
      rw [sent_lookup signed opened (lacking bucket),
        sent_lookup (same.anonymous.trans signed) (same.isOpen.trans opened) absent, asked] }

theorem asksAlike_run_photos :
    AsksAlike Sample.client
      (Sample.client.run [.lookup Sample.transport Sample.noon "photos", .forget "photos"]).1
      (Sample.client.run [.lookup Sample.transport Sample.noon "photos", .forget "photos"]).2 :=
  asksAlike_run Sample.new_client Sample.new_client rfl (by simp)

end Client

namespace Sample

def cookieAnswer : Response :=
  .make 200 none (.ofLines [("Set-Cookie", "session=1")]) []

def cookieTransport : Transport :=
  fun _ => .ok cookieAnswer

def urlOf (bucket : String) : Url :=
  ⟨"https", "", "s3.amazonaws.com", none, "/" ++ bucket, some "location=", none⟩

theorem query_films : ∃ request, client.query noon "films" = .ok request ∧
    request.url = urlOf "films" := by
  let plain : Request := { plainQuery with url := urlOf "films" }
  have built : client.unsignedQuery "films" = .ok plain := toOption_eq_some.mp (by decide +kernel)
  have resource : Signing.V2.signingUrl plain.url =
      .ok { plain.url with query := some "location" } := toOption_eq_some.mp (by decide +kernel)
  have time : noon.instant? = some ⟨⟨2026, 10, 19⟩, 12, 0, 0⟩ := by decide +kernel
  obtain ⟨request, asked⟩ := Client.query_of_v2 (c := client) rfl (by decide) rfl built resource time
  refine ⟨request, asked, ?_⟩
  have located : Endpoint.locationUrl client.endpoint "films" = .ok (urlOf "films") :=
    toOption_eq_some.mp (by decide +kernel)
  exact Except.ok.inj ((Client.url_query asked).symm.trans located)

end Sample

namespace Client

theorem run_lookup (transport : Transport) (clock : Calendar.Reading) (bucket : String)
    (c : Client) :
    (c.run [.lookup transport clock bucket]).1 = (c.lookup transport clock bucket).client :=
  rfl

theorem get?_lookup_of_other {bucket other : String} (c : Client) (ne : bucket ≠ other)
    (transport : Transport) (clock : Calendar.Reading) :
    (c.lookup transport clock bucket).client.cache.get? other = c.cache.get? other := by
  have unasked : (Call.lookup transport clock bucket).bucket? ≠ some other := by
    simpa [Call.bucket?] using ne
  exact get?_perform_of_other c unasked

/-- The answer to the query for one bucket sets a cookie, and the query for another one has it. -/
theorem cookie_changes_next_query :
    (Sample.client.run [.lookup Sample.cookieTransport Sample.noon "photos"]).1.cache.get? "films" =
        none ∧
      ((Sample.client.run [.lookup Sample.cookieTransport Sample.noon "photos"]).1.lookup
          Sample.transport Sample.noon "films").journal.sent ≠
        (Sample.client.lookup Sample.transport Sample.noon "films").journal.sent := by
  have unclosed : Call.close ∉ [.lookup Sample.cookieTransport Sample.noon "photos"] := by simp
  have same := sameOptions_run Sample.client unclosed
  rw [run_lookup] at same ⊢
  have absent := get?_lookup_of_other Sample.client (show "photos" ≠ "films" by decide)
    Sample.cookieTransport Sample.noon
  rw [cache_new Sample.new_client] at absent
  refine ⟨absent, fun equal => ?_⟩
  obtain ⟨photos, asked⟩ := Sample.query_client
  obtain ⟨films, built, url⟩ := Sample.query_films
  have unsuited := (sent_eq_iff same rfl rfl rfl rfl absent built Sample.transport).mp equal
  have came : Sample.cookieTransport (authorized photos) = .ok Sample.cookieAnswer := rfl
  have heard := mem_received_lookup rfl rfl asked rfl came
  have learnt := learnt_lookup Sample.cookieTransport Sample.noon "photos" Sample.client
  rw [url] at unsuited
  generalize (Sample.client.lookup Sample.cookieTransport Sample.noon "photos").client.session =
    session at learnt unsuited
  generalize (Sample.client.lookup Sample.cookieTransport Sample.noon "photos").journal.received =
    received at learnt heard
  cases learnt with
  | nothing => cases heard
  | answer located =>
      cases List.mem_singleton.mp heard
      have there : Endpoint.locationUrl Sample.client.endpoint "photos" =
          .ok (Sample.urlOf "photos") := toOption_eq_some.mp (by decide +kernel)
      cases Except.ok.inj (located.symm.trans there)
      have suits : ((Sample.client.session.jar.learn (.ofUrl (Sample.urlOf "photos"))
          Sample.cookieAnswer).header? (.ofUrl (Sample.urlOf "films"))).isSome = true := by
        decide +kernel
      rw [unsuited] at suits
      cases suits

end Client

end BucketRegion
