import BucketRegion.Proofs.Http.Merging
import BucketRegion.Proofs.Signing.Verifier

/-!
# What a signature is computed from

Signing goes the same way in both versions. From the request a draft is made: the date, and the text
that is signed. The digest of the payload is put in if the version asks for it, then the date and the
authorization, which depends on the keys, the region and the draft and on nothing else of the
request. There is no authorization if the secret key cannot be encoded.

Of the headers that signing writes itself only the digest of the payload is read. So what these held
before is of no matter.
-/

set_option autoImplicit false

namespace BucketRegion

open Http (Request Headers)

namespace Decimal

theorem isAscii_digits (n : Nat) : Text.isAscii (digits n) = true := by
  have table : ∀ d < 10, (digit d).toNat < 0x80 := by decide
  fun_induction digits n with
  | case1 n small => simp [Text.isAscii, table n small]
  | case2 n large ih =>
      have last := table (n % 10) (Nat.mod_lt n (by decide))
      rw [Text.isAscii_append, ih, Text.isAscii_cons]
      simp [last, Text.isAscii]

end Decimal

theorem Calendar.isAscii_stamp (instant : Instant) : Text.isAscii instant.stamp.toList = true := by
  simp only [Instant.stamp, Instant.compactChars, String.toList_ofList, List.append_assoc,
    List.cons_append, Text.isAscii_append, Text.isAscii_cons, Decimal.isAscii_digits,
    Decimal.isAscii_digitsPadded]
  decide

/-! ## Headers that are put in -/

namespace Http.Request

/-- A request with a header that takes the place of all lines of its name. -/
def put (request : Request) (name value : String) : Request :=
  { request with headers.lines := Headers.putLine name value request.headers.lines }

/-- Whether a header can take a value. -/
def Admits (request : Request) (value : String) : Prop :=
  request.headers.asciiOnly = true → Text.notAscii? value = none

variable {request : Request} {name value other : String}

theorem admits_of_ascii (ascii : Text.isAscii value.toList = true) : request.Admits value :=
  fun _ => Text.notAscii?_eq_none ascii

@[simp] theorem url_put : (request.put name value).url = request.url := rfl

@[simp] theorem method_put : (request.put name value).method = request.method := rfl

@[simp] theorem asciiOnly_put :
    (request.put name value).headers.asciiOnly = request.headers.asciiOnly := rfl

theorem set_of_admits (admits : request.Admits value) :
    request.set name value = .ok (request.put name value) := by
  have allowed : (if request.headers.asciiOnly then Text.notAscii? value else none) = none := by
    split
    · next narrow => exact admits narrow
    · rfl
  unfold set Headers.set
  rw [allowed]
  rfl

theorem put_put (request : Request) (name first second : String) :
    (request.put name first).put name second = request.put name second := by
  simp only [put, Headers.putLine_putLine]

theorem put_comm {value' : String} (different : name ≠ other)
    (present : request.headers.contains other = true) :
    (request.put name value).put other value' = (request.put other value').put name value := by
  simp only [put, Headers.putLine_comm different present]

theorem contains_put_self (request : Request) (name value : String) :
    (request.put name value).headers.contains name = true := by
  unfold Headers.contains put
  rw [Headers.any_eq_isEmpty_filter, Headers.filter_putLine]
  rfl

theorem contains_put_of_ne (different : other ≠ name) (request : Request) (value : String) :
    (request.put name value).headers.contains other = request.headers.contains other :=
  Headers.any_putLine_of_other different value request.headers.lines

theorem get?_put_self (request : Request) (name value : String) :
    (request.put name value).headers.get? name = some value :=
  Headers.get?_of_filter (Headers.filter_putLine name value request.headers.lines)

theorem get?_put_of_ne (different : other ≠ name) (request : Request) (value : String) :
    (request.put name value).headers.get? other = request.headers.get? other := by
  unfold Headers.get?
  rw [show (request.put name value).headers.valuesOf other = request.headers.valuesOf other from
    Headers.valuesOf_putLine_of_ne different value]

end Http.Request

namespace Signing

theorem Outcome.setting_of_admits {request : Request} {name value : String}
    {next : Request → Outcome} (admits : request.Admits value) :
    setting request name value next = next (request.put name value) := by
  simp only [setting, Request.set_of_admits admits]

theorem Outcome.problem_setting_done (request : Request) (name value : String) :
    (setting request name value .done).problem =
      if request.headers.asciiOnly then (Text.notAscii? value).map .notAscii else none := by
  unfold setting Request.set Headers.set
  cases request.headers.asciiOnly with
  | false => rfl
  | true =>
      cases Text.notAscii? value with
      | none => rfl
      | some problem => rfl

end Signing

/-! ## Drafts -/

open Signing

namespace SignatureVersion

/-- The header that tells the date. -/
def dateName : SignatureVersion → String
  | v4 => V4.dateHeader
  | v2 => "date"

/-- The headers that signing writes. -/
def written : SignatureVersion → List String
  | v4 => V4.written
  | v2 => ["date", "authorization"]

section

variable (version : SignatureVersion)

theorem written_dateName : version.written.contains (Text.lower version.dateName) = true := by
  cases version <;> decide

theorem written_authorization :
    version.written.contains (Text.lower "authorization") = true := by
  cases version <;> decide

theorem dateName_ne_payload : version.dateName ≠ V4.payloadHeader := by
  cases version <;> decide

theorem dateName_ne_authorization : version.dateName ≠ "authorization" := by
  cases version <;> decide

end

theorem authorization_ne_payload : "authorization" ≠ V4.payloadHeader := by decide

/-- The merged lines of a request that are signed as they are. -/
def covered (version : SignatureVersion) (request : Request) : List (String × String) :=
  request.headers.merged.filter fun line => !version.written.contains (Text.lower line.1)

/-- The request before it is dated: the newer version asks for the digest of the payload. -/
def prepared : SignatureVersion → Request → Request
  | v4, request =>
      if request.headers.contains V4.payloadHeader then request
      else request.put V4.payloadHeader (V4.payloadHash request)
  | v2, request => request

end SignatureVersion

namespace Signing

/-- The date of a signature, the list of the names that it covers, and the text that is signed. The
older version lists no names. -/
@[ext] structure Draft where
  date : String
  names : String
  text : String
  deriving Repr, DecidableEq

/-- The lines that are signed, the date and the digest of the payload among them. -/
def V4.sourceLines (request : Request) (stamp : String) : List (String × String) :=
  SignatureVersion.v4.covered request ++
    [(dateHeader, stamp), (payloadHeader, payloadHash request)]

def V4.draft? (clock : Calendar.Reading) (request : Request) : Except Problem Draft :=
  match clock.instant? with
  | none => .error .noTime
  | some instant =>
      let url := Url.Reference.ofChars request.url.text.toList
      match signedLines url (sourceLines request instant.stamp) with
      | .error problem => .error problem
      | .ok signed =>
          .ok ⟨instant.stamp, signedHeaders signed,
            canonicalRequest request.method url signed (payloadHash request)⟩

def V2.draft? (clock : Calendar.Reading) (request : Request) : Except Problem Draft :=
  match signingUrl request.url with
  | .error error => .error (.url error)
  | .ok url =>
      match clock.instant? with
      | none => .error .noTime
      | some instant =>
          .ok ⟨instant.headerDate, "",
            stringToSign request.method (.ofChars url.text.toList)
              (SignatureVersion.v2.covered request) instant.headerDate⟩

def draft? : SignatureVersion → Calendar.Reading → Request → Except Problem Draft
  | .v4 => V4.draft?
  | .v2 => V2.draft?

namespace Signer

/-- The octets that a signer makes its signatures with. -/
def octets? (signer : Signer) : Except Text.Surrogates Bytes :=
  match signer.version with
  | .v4 => V4.rootKey signer.credentials.secretKey
  | .v2 => Utf8.encode? signer.credentials.secretKey

/-- The authorization that a signer writes for a draft with some octets. -/
def authorize (signer : Signer) (octets : Bytes) (region : String) (draft : Draft) : String :=
  match signer.version with
  | .v4 => V4.authorization signer.credentials region draft.date draft.names
      (V4.signature octets draft.date region draft.text)
  | .v2 => "AWS " ++ signer.credentials.accessKey ++ ":" ++ V2.signature octets draft.text

end Signer

/-! ## Signing by a draft -/

section

variable {request : Request} {name value : String}

theorem V4.sources_eq (request hashed : Request) (stamp : String) :
    sources request hashed stamp = SignatureVersion.v4.covered hashed ++
      [(dateHeader, stamp), (payloadHeader, payloadHash request)] := by
  have different : (Text.lower dateHeader != payloadHeader) = true := by decide
  have kept : [(dateHeader, stamp)].filter (fun line => Text.lower line.1 != payloadHeader) =
      [(dateHeader, stamp)] :=
    List.filter_eq_self.mpr fun line member => by rwa [List.mem_singleton.mp member]
  rw [sources, replaceLine, replaceLine, signable, List.filter_append, List.filter_filter,
    List.filter_filter, kept, List.append_assoc]
  congr 1
  refine List.filter_congr fun line _ => ?_
  rw [Bool.eq_iff_iff]
  simp [SignatureVersion.written, V4.written, and_assoc]

/-- The lines of the older version: those of its own headers aside, only these names are read. -/
theorem V2.stringToSign_filter (keep : String → Bool)
    (kept : ∀ name, keep name = false → name ≠ "content-md5" ∧ name ≠ "content-type" ∧
      Text.dropLead? "x-amz-".toList name.toList = none)
    (method : String) (url : Url.Reference) (lines : List (String × String)) (date : String) :
    stringToSign method url (lines.filter fun line => keep (Text.lower line.1)) date =
      stringToSign method url lines date := by
  have standard : ∀ name, keep name = true →
      standardValue (lines.filter fun line => keep (Text.lower line.1)) name =
        standardValue lines name := by
    intro name known
    have same : (lines.filter fun line => keep (Text.lower line.1)).find?
        (fun line => Text.lower line.1 == name) =
          lines.find? fun line => Text.lower line.1 == name := by
      rw [List.find?_filter]
      congr 1
      funext line
      by_cases here : Text.lower line.1 = name
      · simp [here, known]
      · simp [here]
    rw [standardValue, same, standardValue]
  have custom : customHeaders (lines.filter fun line => keep (Text.lower line.1)) =
      customHeaders lines := by
    have own : ((lines.filter fun line => keep (Text.lower line.1)).map
        fun line => (Text.lower line.1, line.2)).filter (fun line =>
          (Text.dropLead? "x-amz-".toList line.1.toList).isSome) =
        (lines.map fun line => (Text.lower line.1, line.2)).filter fun line =>
          (Text.dropLead? "x-amz-".toList line.1.toList).isSome := by
      rw [List.filter_map, List.filter_map, List.filter_filter]
      refine congrArg _ (List.filter_congr fun line _ => ?_)
      cases dropped : keep (Text.lower line.1) with
      | true => simp
      | false =>
          have missing := (kept _ dropped).2.2
          simp only [Function.comp_apply, missing, Option.isSome_none, Bool.false_and]
    unfold customHeaders
    rw [own]
  have md5 : keep "content-md5" = true := by
    by_contra dropped
    exact (kept _ (by simpa using dropped)).1 rfl
  have type : keep "content-type" = true := by
    by_contra dropped
    exact (kept _ (by simpa using dropped)).2.1 rfl
  rw [stringToSign, standard _ md5, standard _ type, custom, stringToSign]

end

/-- Lines that signing writes are not read, the digest of the payload aside. -/
theorem covered_put {version : SignatureVersion} {name : String}
    (writes : version.written.contains (Text.lower name) = true) (request : Request)
    (value : String) : version.covered (request.put name value) = version.covered request := by
  unfold SignatureVersion.covered
  rw [Headers.filter_merged fun name => !version.written.contains (Text.lower name),
    Headers.filter_merged fun name => !version.written.contains (Text.lower name)]
  congr 2
  exact Headers.filter_putLine_of_other (fun name => !version.written.contains (Text.lower name))
    (by rw [writes]; rfl) value request.headers.lines

namespace V4

variable {request : Request}

theorem payloadHash_of_absent (absent : request.headers.contains payloadHeader = false) :
    payloadHash request = Digest.Sha256.hexDigest request.body := by
  have missing : request.headers.valuesOf payloadHeader = [] := by
    rw [Headers.valuesOf, List.map_eq_nil_iff, ← List.isEmpty_iff]
    simpa [Headers.contains, Headers.any_eq_isEmpty_filter] using absent
  rw [payloadHash, Headers.get?, missing]
  rfl

theorem admits_payloadHash (absent : request.headers.contains payloadHeader = false) :
    request.Admits (payloadHash request) := by
  apply Http.Request.admits_of_ascii
  rw [payloadHash_of_absent absent, Digest.Sha256.hexDigest, String.toList_ofList]
  exact Text.isAscii_hexOctets _

theorem covered_prepared (request : Request) :
    SignatureVersion.v4.covered (SignatureVersion.v4.prepared request) =
      SignatureVersion.v4.covered request := by
  rw [SignatureVersion.prepared]
  split
  · rfl
  · exact covered_put (by decide) request _

theorem url_prepared (version : SignatureVersion) (request : Request) :
    (version.prepared request).url = request.url := by
  cases version with
  | v4 =>
      rw [SignatureVersion.prepared]
      split <;> rfl
  | v2 => rfl

theorem method_prepared (version : SignatureVersion) (request : Request) :
    (version.prepared request).method = request.method := by
  cases version with
  | v4 =>
      rw [SignatureVersion.prepared]
      split <;> rfl
  | v2 => rfl

theorem sign_eq_signHashed (credentials : Credentials) (clock : Calendar.Reading) (region : String)
    (request : Request) :
    sign credentials clock region request =
      signHashed credentials clock region request (SignatureVersion.v4.prepared request) := by
  rw [sign_eq, SignatureVersion.prepared]
  split
  · rfl
  · next absent =>
      exact Outcome.setting_of_admits (admits_payloadHash (by simpa using absent))

theorem sign_eq_draft (credentials : Credentials) (clock : Calendar.Reading) (region : String)
    (request : Request) :
    sign credentials clock region request =
      match draft? clock request with
      | .error problem => .failed (SignatureVersion.v4.prepared request) problem
      | .ok draft =>
          match rootKey credentials.secretKey with
          | .error found => .failed (SignatureVersion.v4.prepared request) (.key found)
          | .ok root =>
              Outcome.setting ((SignatureVersion.v4.prepared request).put dateHeader draft.date)
                "authorization" (authorization credentials region draft.date draft.names
                  (V4.signature root draft.date region draft.text)) .done := by
  rw [sign_eq_signHashed, signHashed, draft?]
  cases clock.instant? with
  | none => rfl
  | some instant =>
      dsimp only
      rw [← sources, sources_eq, covered_prepared, url_prepared, method_prepared, ← sourceLines]
      cases signedLines (.ofChars request.url.text.toList)
        (sourceLines request instant.stamp) with
      | error problem => rfl
      | ok signed =>
          cases rootKey credentials.secretKey with
          | error found => rfl
          | ok root =>
              exact Outcome.setting_of_admits
                (Http.Request.admits_of_ascii (Calendar.isAscii_stamp instant))

end V4

theorem V2.sign_eq_draft (credentials : Credentials) (clock : Calendar.Reading)
    (request : Request) :
    sign credentials clock request =
      match draft? clock request with
      | .error problem => .failed request problem
      | .ok draft =>
          match Utf8.encode? credentials.secretKey with
          | .error found => .failed request (.key found)
          | .ok key =>
              Outcome.setting (request.put "date" draft.date) "authorization"
                ("AWS " ++ credentials.accessKey ++ ":" ++ V2.signature key draft.text) .done := by
  have read : ∀ name, (!SignatureVersion.v2.written.contains name) = false →
      name ≠ "content-md5" ∧ name ≠ "content-type" ∧
        Text.dropLead? "x-amz-".toList name.toList = none := by
    intro name written
    have among : name ∈ ["date", "authorization"] :=
      List.contains_iff_mem.mp ((Bool.not_eq_eq_eq_not ..).mp written)
    simp only [List.mem_cons, List.not_mem_nil, or_false] at among
    rcases among with rfl | rfl
    · decide
    · decide
  have signed : ∀ url date, stringToSign request.method url (signable request) date =
      stringToSign request.method url (SignatureVersion.v2.covered request) date := by
    intro url date
    rw [SignatureVersion.covered, stringToSign_filter _ read, signable,
      stringToSign_filter fun name => name != "authorization"]
    intro name dropped
    have same : name = "authorization" := by simpa using dropped
    subst same
    decide
  rw [sign, draft?]
  cases signingUrl request.url with
  | error error => rfl
  | ok url =>
      cases clock.instant? with
      | none => rfl
      | some instant =>
          dsimp only
          rw [signed]
          cases Utf8.encode? credentials.secretKey with
          | error found => rfl
          | ok key =>
              exact Outcome.setting_of_admits
                (Http.Request.admits_of_ascii (Calendar.isAscii_headerDate instant))

/-- Signing: the draft, the octets of the key, the headers that come before the authorization, and
the authorization. -/
theorem Signer.sign_eq_draft (signer : Signer) (clock : Calendar.Reading) (region : String)
    (request : Request) :
    signer.sign clock region request =
      match draft? signer.version clock request with
      | .error problem => .failed (signer.version.prepared request) problem
      | .ok draft =>
          match signer.octets? with
          | .error found => .failed (signer.version.prepared request) (.key found)
          | .ok octets =>
              Outcome.setting
                ((signer.version.prepared request).put signer.version.dateName draft.date)
                "authorization" (signer.authorize octets region draft) .done := by
  unfold authorize octets?
  cases version : signer.version with
  | v4 =>
      rw [sign_of_v4 version]
      exact V4.sign_eq_draft signer.credentials clock region request
  | v2 =>
      rw [sign_of_v2 version]
      exact V2.sign_eq_draft signer.credentials clock request

/-! ## Signing that succeeds -/

namespace Signer

variable {signer : Signer} {clock : Calendar.Reading} {region : String} {request : Request}
  {octets : Bytes}

/-- The request with the headers that signing sets. -/
def sealed (signer : Signer) (octets : Bytes) (region : String) (draft : Draft)
    (request : Request) : Request :=
  ((signer.version.prepared request).put signer.version.dateName draft.date).put
    "authorization" (signer.authorize octets region draft)

theorem admits_prepared (version : SignatureVersion) (request : Request) (value : String) :
    (version.prepared request).Admits value ↔ request.Admits value := by
  cases version with
  | v4 =>
      rw [SignatureVersion.prepared]
      split
      · rfl
      · rfl
  | v2 => rfl

theorem sign_of_draft {draft : Draft} (drafted : draft? signer.version clock request = .ok draft)
    (encoded : signer.octets? = .ok octets)
    (admits : request.Admits (signer.authorize octets region draft)) :
    signer.sign clock region request = .done (signer.sealed octets region draft request) := by
  rw [sign_eq_draft, drafted, encoded]
  exact Outcome.setting_of_admits ((admits_prepared _ _ _).mpr admits)

theorem problem_sign :
    (signer.sign clock region request).problem =
      match draft? signer.version clock request with
      | .error problem => some problem
      | .ok draft =>
          match signer.octets? with
          | .error found => some (.key found)
          | .ok octets =>
              if request.headers.asciiOnly then
                (Text.notAscii? (signer.authorize octets region draft)).map .notAscii
              else none := by
  have narrow : (signer.version.prepared request).headers.asciiOnly =
      request.headers.asciiOnly := by
    cases signer.version with
    | v4 =>
        rw [SignatureVersion.prepared]
        split <;> rfl
    | v2 => rfl
  rw [sign_eq_draft]
  split
  · rfl
  · split
    · rfl
    · rw [Outcome.problem_setting_done, Request.asciiOnly_put, narrow]

theorem draft_of_sign (returned : (signer.sign clock region request).problem = none) :
    ∃ draft octets, draft? signer.version clock request = .ok draft ∧
      signer.octets? = .ok octets ∧ request.Admits (signer.authorize octets region draft) := by
  rw [problem_sign] at returned
  split at returned
  · cases returned
  · next draft drafted =>
      split at returned
      · cases returned
      · next octets encoded =>
          refine ⟨draft, octets, drafted, encoded, fun narrow => ?_⟩
          rw [if_pos narrow] at returned
          exact Option.map_eq_none_iff.mp returned

theorem get?_sealed (draft : Draft) :
    (signer.sealed octets region draft request).headers.get? signer.version.dateName =
        some draft.date ∧
      (signer.sealed octets region draft request).headers.get? "authorization" =
        some (signer.authorize octets region draft) := by
  refine ⟨?_, Request.get?_put_self _ _ _⟩
  rw [sealed, Request.get?_put_of_ne (SignatureVersion.dateName_ne_authorization _),
    Request.get?_put_self]

end Signer

/-- A signer, and the clock and the region that it signs for. -/
structure Task where
  signer : Signer
  clock : Calendar.Reading
  region : String
  deriving Repr, DecidableEq

def Task.sign (task : Task) (request : Request) : Outcome :=
  task.signer.sign task.clock task.region request

/-- Two requests are signed alike: both are or none is, and if they are, date and authorization are
the same. -/
structure SignedAlike (task : Task) (request other : Request) : Prop where
  problem : (task.sign other).problem = (task.sign request).problem
  date : (task.sign request).problem = none →
    (task.sign other).request.headers.get? task.signer.version.dateName =
      (task.sign request).request.headers.get? task.signer.version.dateName
  authorization : (task.sign request).problem = none →
    (task.sign other).request.headers.get? "authorization" =
      (task.sign request).request.headers.get? "authorization"

section

variable {task : Task} {request other : Request}

theorem Task.signature_of_draft
    (same : draft? task.signer.version task.clock other =
      draft? task.signer.version task.clock request)
    (returned : (task.sign request).problem = none)
    (otherReturned : (task.sign other).problem = none) :
    (task.sign other).request.headers.get? task.signer.version.dateName =
        (task.sign request).request.headers.get? task.signer.version.dateName ∧
      (task.sign other).request.headers.get? "authorization" =
        (task.sign request).request.headers.get? "authorization" := by
  obtain ⟨draft, octets, drafted, encoded, admits⟩ := Signer.draft_of_sign returned
  obtain ⟨otherDraft, _, otherDrafted, encoded', otherAdmits⟩ :=
    Signer.draft_of_sign otherReturned
  have equal : otherDraft = draft :=
    Except.ok.inj (otherDrafted.symm.trans (same.trans drafted))
  cases Except.ok.inj (encoded'.symm.trans encoded)
  rw [Task.sign, Task.sign, Signer.sign_of_draft drafted encoded admits,
    Signer.sign_of_draft otherDrafted encoded otherAdmits, equal, Outcome.done, Outcome.done]
  dsimp only
  rw [(Signer.get?_sealed draft).1, (Signer.get?_sealed draft).1, (Signer.get?_sealed draft).2,
    (Signer.get?_sealed draft).2]
  exact ⟨rfl, rfl⟩

theorem signedAlike_of_draft (narrow : other.headers.asciiOnly = request.headers.asciiOnly)
    (same : draft? task.signer.version task.clock other =
      draft? task.signer.version task.clock request) : SignedAlike task request other := by
  have problem : (task.sign other).problem = (task.sign request).problem := by
    rw [Task.sign, Task.sign, Signer.problem_sign, Signer.problem_sign, same, narrow]
  have both (returned : (task.sign request).problem = none) :=
    Task.signature_of_draft same returned (problem.trans returned)
  exact ⟨problem, fun returned => (both returned).1, fun returned => (both returned).2⟩

end

/-! ## What a draft depends on -/

section

variable {version : SignatureVersion} {request other : Request}

theorem draft?_congr (clock : Calendar.Reading) (method : other.method = request.method)
    (url : other.url = request.url) (covered : version.covered other = version.covered request)
    (payload : version = .v4 → V4.payloadHash other = V4.payloadHash request) :
    draft? version clock other = draft? version clock request := by
  cases version with
  | v4 => simp only [draft?, V4.draft?, V4.sourceLines, method, url, covered, payload rfl]
  | v2 => simp only [draft?, V2.draft?, method, url, covered]

theorem covered_prepared (version : SignatureVersion) (request : Request) :
    version.covered (version.prepared request) = version.covered request := by
  cases version with
  | v4 => exact V4.covered_prepared request
  | v2 => rfl

theorem draft?_prepared (version : SignatureVersion) (clock : Calendar.Reading)
    (request : Request) :
    draft? version clock (version.prepared request) = draft? version clock request := by
  refine draft?_congr clock (V4.method_prepared version request) (V4.url_prepared version request)
    (covered_prepared version request) ?_
  rintro rfl
  rw [SignatureVersion.prepared]
  split
  · rfl
  · next absent =>
      rw [V4.payloadHash, Http.Request.get?_put_self]
      rfl

/-- Of the headers that signing writes, a draft depends on the digest of the payload only. -/
theorem draft?_put {name : String} (writes : version.written.contains (Text.lower name) = true)
    (apart : name ≠ V4.payloadHeader) (clock : Calendar.Reading) (request : Request)
    (value : String) :
    draft? version clock (request.put name value) = draft? version clock request := by
  refine draft?_congr clock rfl rfl (covered_put writes request value) fun _ => ?_
  rw [V4.payloadHash, Http.Request.get?_put_of_ne (Ne.symm apart)]
  rfl

end

end Signing

end BucketRegion
