import BucketRegion.Proofs.Client.Run
import BucketRegion.Proofs.Signing.Secrecy

/-!
# Secret keys

Two clients whose secret keys differ do the same, call by call: they come to the same results, keep
the same cache, cookies and counts, and report the same events. Their requests differ in what
stands behind the label of the signature, and in nothing else. This needs transports whose answers
do not depend on the authorization, and keys that can both be encoded, or that cannot for the same
reason.
-/

set_option autoImplicit false

namespace BucketRegion

open Http (Transport Request Response Headers)
open Http.Session (authorized)

/-! ## Requests that leave -/

/-- A request without what its authorizations say. -/
def Http.Request.masked (r : Request) : Request :=
  { r with headers.lines := r.headers.lines.map fun line =>
      if line.1 == "authorization" then (line.1, "") else line }

/-- A transport whose answers do not depend on authorizations. -/
def Http.Transport.IgnoresAuthorization (transport : Transport) : Prop :=
  ∀ r r' : Request, r.masked = r'.masked → transport r = transport r'

namespace Signing.Signer

variable {signer : Signer} {r r' : Request}

theorem SameRequest.masked_eq (same : signer.SameRequest r r') : r'.masked = r.masked := by
  have lines : r'.headers.lines.map (fun line =>
        if line.1 == "authorization" then (line.1, "") else line) =
      r.headers.lines.map fun line =>
        if line.1 == "authorization" then (line.1, "") else line := by
    have pairs := same.lines
    generalize r.headers.lines = lines, r'.headers.lines = lines' at pairs
    induction pairs with
    | nil => rfl
    | cons first rest ih =>
        rw [List.map_cons, List.map_cons, ih]
        cases first <;> rfl
  obtain ⟨method, url, ⟨_, asciiOnly⟩, body⟩ := r
  obtain ⟨method', url', ⟨_, asciiOnly'⟩, body'⟩ := r'
  cases same.method
  cases same.url
  cases same.body
  cases same.asciiOnly
  simp only [Http.Request.masked, lines]

theorem SameRequest.authorized (same : signer.SameRequest r r') :
    signer.SameRequest (authorized r) (authorized r') := by
  unfold Http.Session.authorized
  rw [same.url]
  split
  · exact same
  · exact ⟨same.method, rfl, same.body, same.asciiOnly, same_putLine .same same.lines⟩

end Signing.Signer

open Signing (Signer)

inductive SameExchange (signer : Signer) : Http.Session.Exchange → Http.Session.Exchange → Prop where
  | mk {session : Http.Session} {sent? sent?' : Option Request} {received? : Option Response}
      {result : Except Http.SendError Response}
      (sent : Option.Rel signer.SameRequest sent? sent?') :
      SameExchange signer ⟨session, sent?, received?, result⟩ ⟨session, sent?', received?, result⟩

theorem Http.Session.same_send {signer : Signer} {transport : Transport} {r r' : Request}
    (blind : transport.IgnoresAuthorization) (session : Http.Session)
    (same : signer.SameRequest r r') :
    SameExchange signer (session.send transport r) (session.send transport r') := by
  have replies : transport (authorized r') = transport (authorized r) :=
    blind _ _ same.authorized.masked_eq
  unfold send
  dsimp only
  rw [replies, same.authorized.url]
  split
  · exact .mk .none
  · split
    · exact .mk (.some same.authorized)
    · split <;> exact .mk (.some same.authorized)

/-! ## Lookups -/

inductive SameQuery (signer : Signer) :
    Except Client.QueryError Request → Except Client.QueryError Request → Prop where
  | error {e : Client.QueryError} : SameQuery signer (.error e) (.error e)
  | ok {r r' : Request} (same : signer.SameRequest r r') : SameQuery signer (.ok r) (.ok r')

inductive SameAction (signer : Signer) : Action → Action → Prop where
  | same {action : Action} : SameAction signer action action
  | send {r r' : Request} (same : signer.SameRequest r r') :
      SameAction signer (.send r) (.send r')

abbrev SameJournal (signer : Signer) : Journal → Journal → Prop :=
  List.Forall₂ (SameAction signer)

inductive SamePhase (signer : Signer) : Phase → Phase → Prop where
  | same {phase : Phase} : SamePhase signer phase phase
  | asking {r r' : Request} (same : signer.SameRequest r r') :
      SamePhase signer (.asking r) (.asking r')
  | reading {r r' : Request} {response : Response} (same : signer.SameRequest r r') :
      SamePhase signer (.reading r response) (.reading r' response)

theorem same_journal (signer : Signer) (journal : Journal) :
    SameJournal signer journal journal := by
  induction journal with
  | nil => exact .nil
  | cons action rest ih => exact .cons .same ih

namespace Client

/-- The client of the same account with another secret key. -/
def withSecret (c : Client) (secret : Text.Loose) : Client :=
  { c with signer := c.signer.withSecret secret }

structure SameMove (signer : Signer) (secret : Text.Loose) (m m' : Move) : Prop where
  client : m'.client = m.client.withSecret secret
  phase : SamePhase signer m.phase m'.phase
  journal : SameJournal signer m.journal m'.journal

variable {signer : Signer} {transport : Transport} {clock : Calendar.Reading} {bucket : String}
  {secret : Text.Loose} {r r' : Request}

theorem SameMove.of_eq {m m' : Move} (client : m'.client = m.client.withSecret secret)
    (phase : m'.phase = m.phase) (journal : m'.journal = m.journal) :
    SameMove signer secret m m' :=
  ⟨client, phase ▸ .same, journal ▸ same_journal signer m.journal⟩

theorem same_query {c : Client}
    (alike : Text.surrogates? secret = Text.surrogates? c.signer.credentials.secretKey)
    (clock : Calendar.Reading) (bucket : String) :
    SameQuery c.signer (c.query clock bucket) ((c.withSecret secret).query clock bucket) := by
  have unsigned : (c.withSecret secret).unsignedQuery bucket = c.unsignedQuery bucket := rfl
  unfold query
  rw [unsigned]
  cases c.unsignedQuery bucket with
  | error e => exact .error
  | ok plain =>
      simp only [bind, Except.bind]
      cases anonymous : c.anonymous with
      | true =>
          simp only [withSecret, anonymous, if_true]
          exact .ok (.refl plain)
      | false =>
          have signs := Signer.same_sign alike clock Region.default plain
          simp only [withSecret, anonymous, Bool.false_eq_true, if_false, signs.problem]
          cases (c.signer.sign clock Region.default plain).problem with
          | some p => exact .error
          | none => exact .ok signs.request

theorem same_consult (c : Client) (secret : Text.Loose) (bucket : String) :
    SameMove signer secret (c.consult bucket) ((c.withSecret secret).consult bucket) := by
  unfold consult withSecret
  dsimp only
  split
  · exact .of_eq rfl rfl rfl
  · split <;> exact .of_eq rfl rfl rfl

theorem same_prepare {c : Client}
    (alike : Text.surrogates? secret = Text.surrogates? c.signer.credentials.secretKey)
    (clock : Calendar.Reading) (bucket : String) :
    SameMove c.signer secret (c.prepare clock bucket)
      ((c.withSecret secret).prepare clock bucket) := by
  have queries := same_query alike clock bucket
  unfold prepare
  generalize c.query clock bucket = query, (c.withSecret secret).query clock bucket = query'
    at queries
  cases queries with
  | error => exact .of_eq rfl rfl rfl
  | ok same => exact ⟨rfl, .asking same, .nil⟩

theorem same_transportTrouble (c : Client) (secret : Text.Loose) (bucket message : String)
    (kind : Http.FailureKind) :
    (c.withSecret secret).transportTrouble bucket message kind =
      ((c.transportTrouble bucket message kind).1.withSecret secret,
        (c.transportTrouble bucket message kind).2) := by
  unfold transportTrouble
  split <;> rfl

theorem same_sight {sent? sent?' : Option Request} (sent : Option.Rel signer.SameRequest sent? sent?')
    (received? : Option Response) :
    SameJournal signer
      ((sent?.map Action.send).toList ++ (received?.map Action.receive).toList)
      ((sent?'.map Action.send).toList ++ (received?.map Action.receive).toList) := by
  refine List.rel_append ?_ (same_journal signer _)
  cases sent with
  | none => exact .nil
  | some same => exact .cons (.send same) .nil

theorem same_ask (blind : transport.IgnoresAuthorization) (c : Client) (secret : Text.Loose)
    (bucket : String) (same : signer.SameRequest r r') :
    SameMove signer secret (c.ask transport bucket r)
      ((c.withSecret secret).ask transport bucket r') := by
  have exchanges := c.session.same_send blind same
  have kept : (c.withSecret secret).session = c.session := rfl
  unfold ask
  rw [kept]
  generalize c.session.send transport r = exchange, c.session.send transport r' = exchange'
    at exchanges
  cases exchanges with
  | @mk session sent? sent?' received? result sent =>
      have seen := same_sight sent received?
      cases result with
      | ok response =>
          refine ⟨rfl, .reading ?_, seen⟩
          cases sent with
          | none => exact same
          | some same => exact same
      | error e =>
          have trouble := same_transportTrouble { c with session := session } secret bucket
            e.message e.kind
          have stays : { c.withSecret secret with session := session } =
              ({ c with session := session } : Client).withSecret secret := rfl
          dsimp only
          rw [stays, trouble]
          refine ⟨rfl, .same, ?_⟩
          exact List.rel_append (List.rel_append (List.rel_append seen (same_journal signer _))
            (same_journal signer _)) (same_journal signer _)

theorem same_readAnswer (c : Client) (secret : Text.Loose) (bucket : String)
    (response : Response) (url : r'.url = r.url) :
    SameMove signer secret (c.readAnswer bucket r response)
      ((c.withSecret secret).readAnswer bucket r' response) := by
  unfold readAnswer
  cases response.content with
  | error e =>
      dsimp only
      rw [same_transportTrouble]
      exact .of_eq rfl rfl rfl
  | ok body =>
      dsimp only
      rw [url]
      split
      · exact .of_eq rfl rfl rfl
      · next e judged =>
          refine .of_eq ?_ rfl rfl
          dsimp only [countUndecodable]
          split <;> rfl

theorem same_advance (blind : transport.IgnoresAuthorization) {c : Client}
    (alike : Text.surrogates? secret = Text.surrogates? c.signer.credentials.secretKey)
    (clock : Calendar.Reading) (bucket : String) {phase phase' : Phase}
    (phases : SamePhase c.signer phase phase') :
    SameMove c.signer secret (c.advance transport clock bucket phase)
      ((c.withSecret secret).advance transport clock bucket phase') := by
  cases phases with
  | asking same => exact c.same_ask blind secret bucket same
  | reading same => exact c.same_readAnswer secret bucket _ same.url
  | same =>
      cases phase with
      | begun => exact c.same_consult secret bucket
      | missed => exact same_prepare alike clock bucket
      | asking request => exact c.same_ask blind secret bucket (.refl request)
      | reading request response => exact c.same_readAnswer secret bucket response rfl
      | told constraint => exact .of_eq rfl rfl rfl
      | ended result => exact .of_eq rfl rfl rfl

theorem same_steps (blind : transport.IgnoresAuthorization) {c : Client}
    (alike : Text.surrogates? secret = Text.surrogates? c.signer.credentials.secretKey)
    (clock : Calendar.Reading) (bucket : String) (n : Nat) {phase phase' : Phase}
    (phases : SamePhase c.signer phase phase') :
    SameMove c.signer secret (steps transport clock bucket n c phase)
      (steps transport clock bucket n (c.withSecret secret) phase') := by
  induction n generalizing c phase phase' with
  | zero => exact ⟨rfl, phases, .nil⟩
  | succ n ih =>
      have first := same_advance blind alike clock bucket phases
      have make := (turn_advance transport clock bucket c phase).sameMake.signer
      have rest := ih (make ▸ alike) (make ▸ first.phase)
      rw [make, ← first.client] at rest
      exact ⟨rest.client, rest.phase, List.rel_append first.journal rest.journal⟩

structure SameEnd (signer : Signer) (secret : Text.Loose)
    (o o' : Outcome (Except LookupError String)) : Prop where
  client : o'.client = o.client.withSecret secret
  result : o'.result = o.result
  journal : SameJournal signer o.journal o'.journal

theorem same_lookup (blind : transport.IgnoresAuthorization) {c : Client}
    (alike : Text.surrogates? secret = Text.surrogates? c.signer.credentials.secretKey)
    (clock : Calendar.Reading) (bucket : String) :
    SameEnd c.signer secret (c.lookup transport clock bucket)
      ((c.withSecret secret).lookup transport clock bucket) := by
  have begun : SamePhase c.signer .begun .begun := .same
  have same := same_steps blind alike clock bucket 5 begun
  rw [steps_five, steps_five] at same
  obtain ⟨client, phase, journal⟩ := same
  refine ⟨client, ?_, journal⟩
  dsimp only at phase
  generalize (c.lookup transport clock bucket).result = result,
    ((c.withSecret secret).lookup transport clock bucket).result = result' at phase
  cases phase
  rfl

end Client

/-! ## Runs -/

/-- What a client is asked for. -/
inductive Demand where
  | lookup (transport : Transport) (clock : Calendar.Reading) (bucket : String)
  | forget (bucket : String)
  /-- The query for a bucket, which is not sent. -/
  | query (clock : Calendar.Reading) (bucket : String)
  | close

/-- What can be seen of what a client does on demand. -/
inductive Reply where
  | lookup (result : Except LookupError String) (journal : Journal)
  | forgotten (journal : Journal)
  | query (result : Except Client.QueryError Request)
  | closed

/-- A demand whose transport, if it has one, does not look at authorizations. -/
def Demand.IsBlind : Demand → Prop
  | .lookup transport _ _ => transport.IgnoresAuthorization
  | _ => True

inductive SameReply (signer : Signer) : Reply → Reply → Prop where
  | lookup {result : Except LookupError String} {journal journal' : Journal}
      (same : SameJournal signer journal journal') :
      SameReply signer (.lookup result journal) (.lookup result journal')
  | forgotten {journal : Journal} : SameReply signer (.forgotten journal) (.forgotten journal)
  | query {result result' : Except Client.QueryError Request}
      (same : SameQuery signer result result') :
      SameReply signer (.query result) (.query result')
  | closed : SameReply signer .closed .closed

namespace Client

def respond (c : Client) : Demand → Client × Reply
  | .lookup transport clock bucket =>
      let outcome := c.lookup transport clock bucket
      (outcome.client, .lookup outcome.result outcome.journal)
  | .forget bucket => ((c.forget bucket).client, .forgotten (c.forget bucket).journal)
  | .query clock bucket => (c, .query (c.query clock bucket))
  | .close => (c.close, .closed)

def serve (c : Client) : List Demand → Client × List Reply
  | [] => (c, [])
  | demand :: rest =>
      let (next, reply) := c.respond demand
      let (last, replies) := next.serve rest
      (last, reply :: replies)

variable {c : Client} {secret : Text.Loose} {demand : Demand} {demands : List Demand}

theorem signer_respond (c : Client) (demand : Demand) : (c.respond demand).1.signer = c.signer := by
  cases demand with
  | lookup transport clock bucket => exact (course_lookup transport clock bucket c).sameMake.signer
  | _ => rfl

theorem same_respond (blind : demand.IsBlind)
    (alike : Text.surrogates? secret = Text.surrogates? c.signer.credentials.secretKey) :
    ((c.withSecret secret).respond demand).1 = (c.respond demand).1.withSecret secret ∧
      SameReply c.signer (c.respond demand).2 ((c.withSecret secret).respond demand).2 := by
  cases demand with
  | lookup transport clock bucket =>
      obtain ⟨client, result, journal⟩ := same_lookup blind alike clock bucket
      refine ⟨client, ?_⟩
      simp only [respond, result]
      exact .lookup journal
  | forget bucket => exact ⟨rfl, .forgotten⟩
  | query clock bucket => exact ⟨rfl, .query (same_query alike clock bucket)⟩
  | close => exact ⟨rfl, .closed⟩

theorem same_serve (blind : ∀ demand ∈ demands, demand.IsBlind)
    (alike : Text.surrogates? secret = Text.surrogates? c.signer.credentials.secretKey) :
    ((c.withSecret secret).serve demands).1 = (c.serve demands).1.withSecret secret ∧
      List.Forall₂ (SameReply c.signer) (c.serve demands).2
        ((c.withSecret secret).serve demands).2 := by
  induction demands generalizing c with
  | nil => exact ⟨rfl, .nil⟩
  | cons demand rest ih =>
      obtain ⟨client, reply⟩ := same_respond (blind demand List.mem_cons_self) alike
      have later := ih (fun other member => blind other (List.mem_cons_of_mem _ member))
        (c := (c.respond demand).1) ((signer_respond c demand).symm ▸ alike)
      rw [signer_respond, ← client] at later
      exact ⟨later.1, .cons reply later.2⟩

/-- What a secret key changes of a client and of all that it does on demand: signatures. -/
structure HidesSecret (options : Options) (secret : Text.Loose) (made : Calendar.Reading)
    (demands : List Demand) : Prop where
  new : Client.new { options with secretKey := secret } made =
    (Client.new options made).map (·.withSecret secret)
  created : ∀ c, Client.new options made = .ok c → (c.withSecret secret).created = c.created
  client : ∀ c, Client.new options made = .ok c →
    ((c.withSecret secret).serve demands).1 = (c.serve demands).1.withSecret secret
  replies : ∀ c, Client.new options made = .ok c →
    List.Forall₂ (SameReply c.signer) (c.serve demands).2
      ((c.withSecret secret).serve demands).2

theorem new_of_secret {options : Options} (given : options.secretKey ≠ []) (other : secret ≠ [])
    (made : Calendar.Reading) :
    Client.new { options with secretKey := secret } made =
      (Client.new options made).map (·.withSecret secret) := by
  have given : options.secretKey.isEmpty = false := by simpa using given
  have other : secret.isEmpty = false := by simpa using other
  unfold Client.new
  cases Endpoint.parse options.endpoint with
  | error e => rfl
  | ok endpoint =>
      cases SignatureVersion.ofValue options.signatureVersion with
      | error e => rfl
      | ok version =>
          cases userAgentOf options.userAgent with
          | error e => rfl
          | ok userAgent => simp [bind, Except.bind, pure, Except.pure, Except.map, withSecret,
              Signer.withSecret, given, other]

theorem secretKey_of_new {options : Options} {made : Calendar.Reading}
    (new : Client.new options made = .ok c) : c.signer.credentials.secretKey = options.secretKey := by
  unfold Client.new at new
  obtain ⟨endpoint, _, new⟩ := bind_eq_ok.mp new
  obtain ⟨version, _, new⟩ := bind_eq_ok.mp new
  obtain ⟨userAgent, _, new⟩ := bind_eq_ok.mp new
  cases new
  rfl

/-- The secret key is seen in signatures only, whatever is asked of a client, as long as the
answers do not depend on authorizations. The other key has to be one that can be encoded as well, or
that cannot for the same reason. -/
theorem hidesSecret_serve {options : Options} {secret : Text.Loose}
    (given : options.secretKey ≠ []) (other : secret ≠ [])
    (alike : Text.surrogates? secret = Text.surrogates? options.secretKey)
    (made : Calendar.Reading) {demands : List Demand}
    (blind : ∀ demand ∈ demands, demand.IsBlind) : HidesSecret options secret made demands where
  new := new_of_secret given other made
  created := fun _ _ => rfl
  client := fun _ new => (same_serve blind (secretKey_of_new new ▸ alike)).1
  replies := fun _ new => (same_serve blind (secretKey_of_new new ▸ alike)).2

end Client

/-! ## A transport that asks for an authorization -/

namespace Sample

/-- A transport that answers requests only if they have an authorization, whatever it is. -/
def guarded : Transport := fun request =>
  if request.headers.contains "authorization" then transport request
  else .ok (.make 403 none (.ofLines []) [])

theorem contains_masked (r : Request) (name : String) :
    r.masked.headers.contains name = r.headers.contains name := by
  simp only [Http.Request.masked, Headers.contains, List.any_map]
  congr 1
  funext line
  dsimp only [Function.comp]
  split <;> rfl

theorem ignoresAuthorization_guarded : guarded.IgnoresAuthorization := by
  intro r r' same
  have alike : r.headers.contains "authorization" = r'.headers.contains "authorization" := by
    rw [← contains_masked, same, contains_masked]
  simp only [guarded, alike, transport]

def demands : List Demand :=
  [.query noon "photos", .lookup guarded noon "photos", .forget "photos",
    .lookup guarded noon "photos"]

/-- A key with an octet in it that is no character of its own. -/
def brokenKey (rest : String) : Text.Loose := .surrogate 0x4E9 :: Text.Loose.ofString rest

theorem isBlind_demands : ∀ demand ∈ demands, demand.IsBlind := by
  intro demand member
  simp only [demands, List.mem_cons, List.not_mem_nil, or_false] at member
  rcases member with rfl | rfl | rfl | rfl
  · trivial
  · exact ignoresAuthorization_guarded
  · trivial
  · exact ignoresAuthorization_guarded

end Sample

namespace Client

theorem hidesSecret_serve_photos :
    ((Sample.options.secretKey ≠ [] ∧ Text.Loose.ofString "OTHER" ≠ [] ∧
        Text.surrogates? (.ofString "OTHER") = Text.surrogates? Sample.options.secretKey ∧
        Client.new Sample.options Sample.noon = .ok Sample.client) ∧
      HidesSecret Sample.options "OTHER" Sample.noon Sample.demands) ∧
    (Sample.brokenKey "A" ≠ [] ∧ Sample.brokenKey "B" ≠ [] ∧
        Text.surrogates? (Sample.brokenKey "B") = Text.surrogates? (Sample.brokenKey "A")) ∧
      HidesSecret { Sample.options with secretKey := Sample.brokenKey "A" } (Sample.brokenKey "B")
        Sample.noon Sample.demands := by
  have encoded : Text.surrogates? (.ofString "OTHER") = Text.surrogates? Sample.options.secretKey :=
    rfl
  have broken : Text.surrogates? (Sample.brokenKey "B") = Text.surrogates? (Sample.brokenKey "A") :=
    rfl
  refine ⟨⟨⟨by decide, by decide, encoded, Sample.new_client⟩, ?_⟩,
    ⟨by decide, by decide, broken⟩, ?_⟩
  · exact hidesSecret_serve (by decide) (by decide) encoded Sample.noon Sample.isBlind_demands
  · exact hidesSecret_serve (by decide) (by decide) broken Sample.noon Sample.isBlind_demands

/-- A key that cannot be encoded is told from one that can by the problem that it gives, and keys
that can be encoded are told from one another by queries that are not sent. -/
theorem secret_seen_in_results :
    Client.new Sample.options Sample.noon = .ok Sample.client ∧
    (∀ demand ∈ Sample.demands, demand.IsBlind) ∧
    (Sample.brokenKey "A" ≠ [] ∧
      (∃ request, Sample.client.query Sample.noon "photos" = .ok request) ∧
      (Sample.client.withSecret (Sample.brokenKey "A")).query Sample.noon "photos" =
        .error (.signing (.key ⟨0, .alone 0x4E9⟩)) ∧
      ¬ HidesSecret Sample.options (Sample.brokenKey "A") Sample.noon Sample.demands) ∧
    (Sample.client.withSecret "OTHER").query Sample.noon "photos" ≠
      Sample.client.query Sample.noon "photos" := by
  obtain ⟨request, built⟩ := Sample.query_client
  have failed : (Sample.client.withSecret (Sample.brokenKey "A")).query Sample.noon "photos" =
      .error (.signing (.key ⟨0, .alone 0x4E9⟩)) := by decide +kernel
  refine ⟨Sample.new_client, Sample.isBlind_demands,
    ⟨by decide, ⟨request, built⟩, failed, fun hides => ?_⟩, by decide +kernel⟩
  have replies := hides.replies Sample.client Sample.new_client
  cases replies with
  | cons first _ =>
      simp only [built, failed] at first
      cases first with
      | query same => cases same

end Client

end BucketRegion
