import Mathlib.Data.List.Forall2
import BucketRegion.Proofs.Signing.Authorization
import BucketRegion.Proofs.Signing.Headers

/-!
# What a secret key changes of a request

Signing with another secret key of the same account goes the same way: it fails with the same
problem, or sets the same headers. Only what stands behind the label of the signature differs. This
needs keys that can both be encoded, or that the same surrogates keep from it: a key that cannot be
encoded is told from others by the problem that it gives.
-/

set_option autoImplicit false

namespace BucketRegion

open Http (Request Headers)

/-- What keeps a text from ASCII is not found in characters of ASCII that follow it. -/
theorem Text.findNotAscii?_append {tail : List Char} (ascii : isAscii tail = true)
    (position : Nat) (lead : List Char) :
    findNotAscii? position (lead ++ tail) = findNotAscii? position lead := by
  have stops : tail.takeWhile (fun c => decide (0x80 ≤ c.toNat)) = [] := by
    cases tail with
    | nil => rfl
    | cons c rest =>
        simp only [isAscii_cons, Bool.and_eq_true, decide_eq_true_eq] at ascii
        exact List.takeWhile_cons_of_neg (by simpa using ascii.1)
  induction lead generalizing position with
  | nil => exact findNotAscii?_eq_none ascii position
  | cons c lead ih =>
      rw [List.cons_append, findNotAscii?, findNotAscii?, ih]
      split
      · rfl
      · rw [List.takeWhile_append, stops, List.append_nil]
        split
        · next whole => rw [(List.takeWhile_prefix _).eq_of_length whole]
        · rfl

/-! ## Keys that can be encoded -/

namespace Text

/-- Surrogates are looked for in the same way wherever a text starts. -/
theorem findSurrogates?_eq_map (position : Nat) (text : Loose) :
    findSurrogates? position text =
      (surrogates? text).map fun found => { found with position := position + found.position } := by
  have moved (start : Nat) : findSurrogates? (position + start) text =
      (findSurrogates? start text).map fun found =>
        { found with position := position + found.position } := by
    induction text generalizing start with
    | nil => rfl
    | cons code rest ih =>
        cases code with
        | char c =>
            rw [findSurrogates?, findSurrogates?, Nat.add_assoc]
            exact ih (start + 1)
        | surrogate offset =>
            rw [findSurrogates?, findSurrogates?]
            split <;> rfl
  exact moved 0

theorem findSurrogates?_append (lead : List Char) (position : Nat) (text : Loose) :
    findSurrogates? position (.ofChars lead ++ text) =
      findSurrogates? (position + lead.length) text := by
  induction lead generalizing position with
  | nil => rfl
  | cons c lead ih =>
      change findSurrogates? (position + 1) (.ofChars lead ++ text) = _
      rw [ih, List.length_cons, Nat.add_assoc, Nat.add_comm 1]

end Text

/-- Behind the same characters, keys that surrogates keep from being encoded alike, or not at all,
are encoded both, or fail for the same reason. -/
theorem Utf8.encode?_of_alike {key key' : Text.Loose}
    (alike : Text.surrogates? key' = Text.surrogates? key) (lead : String) :
    (∃ found, encode? (.ofString lead ++ key) = .error found ∧
      encode? (.ofString lead ++ key') = .error found) ∨
    ∃ octets octets', encode? (.ofString lead ++ key) = .ok octets ∧
      encode? (.ofString lead ++ key') = .ok octets' := by
  have same : Text.surrogates? (.ofString lead ++ key') =
      Text.surrogates? (.ofString lead ++ key) := by
    simp only [Text.surrogates?, Text.Loose.ofString, Text.findSurrogates?_append]
    rw [Text.findSurrogates?_eq_map, alike, ← Text.findSurrogates?_eq_map]
  unfold encode?
  rw [same]
  cases Text.surrogates? (.ofString lead ++ key) with
  | some found => exact .inl ⟨found, rfl, rfl⟩
  | none => exact .inr ⟨_, _, rfl, rfl⟩

/-! ## Requests that differ in signatures -/

namespace Signing

namespace Signer

/-- The signer of the same account with another secret key. -/
def withSecret (signer : Signer) (secret : Text.Loose) : Signer :=
  { signer with credentials.secretKey := secret }

/-- The texts that can stand before the signature in an authorization. -/
def Leads (signer : Signer) (lead : String) : Prop :=
  match signer.version with
  | .v4 => ∃ stamp region names, lead =
      "AWS4-HMAC-SHA256 Credential=" ++ signer.credentials.accessKey ++ "/" ++
        V4.scope stamp region ++ ", SignedHeaders=" ++ names ++ ", Signature="
  | .v2 => lead = "AWS " ++ signer.credentials.accessKey ++ ":"

/-- Header lines that differ in a signature at most. -/
inductive SameLine (signer : Signer) : String × String → String × String → Prop where
  | same {line : String × String} : SameLine signer line line
  | signature {lead first second : String} (leads : signer.Leads lead) :
      SameLine signer ("authorization", lead ++ first) ("authorization", lead ++ second)

/-- Requests that differ in signatures at most. -/
structure SameRequest (signer : Signer) (r r' : Request) : Prop where
  method : r'.method = r.method
  url : r'.url = r.url
  body : r'.body = r.body
  asciiOnly : r'.headers.asciiOnly = r.headers.asciiOnly
  lines : List.Forall₂ signer.SameLine r.headers.lines r'.headers.lines

structure SameOutcome (signer : Signer) (o o' : Outcome) : Prop where
  problem : o'.problem = o.problem
  request : signer.SameRequest o.request o'.request

variable {signer : Signer} {secret : Text.Loose} {lines lines' : List (String × String)}
  {r r' : Request}

theorem SameLine.name_eq {line line' : String × String} (same : signer.SameLine line line') :
    line'.1 = line.1 := by
  cases same <;> rfl

theorem same_lines (lines : List (String × String)) :
    List.Forall₂ signer.SameLine lines lines := by
  induction lines with
  | nil => exact .nil
  | cons line lines ih => exact .cons .same ih

theorem SameRequest.refl (r : Request) : signer.SameRequest r r :=
  ⟨rfl, rfl, rfl, rfl, same_lines r.headers.lines⟩

theorem SameOutcome.refl (o : Outcome) : signer.SameOutcome o o := ⟨rfl, .refl o.request⟩

theorem same_putLine {name value value' : String}
    (same : signer.SameLine (name, value) (name, value'))
    (before : List.Forall₂ signer.SameLine lines lines') :
    List.Forall₂ signer.SameLine (Headers.putLine name value lines)
      (Headers.putLine name value' lines') := by
  induction before with
  | nil => exact .cons same .nil
  | @cons line line' lines lines' first rest ih =>
      obtain ⟨held, old⟩ := line
      obtain ⟨held', old'⟩ := line'
      cases (first.name_eq : held' = held)
      by_cases here : held = name
      · subst here
        rw [Headers.putLine_cons_self, Headers.putLine_cons_self]
        refine .cons same (List.rel_filter ?_ rest)
        intro other other' named
        simp only [named.name_eq]
      · rw [Headers.putLine_cons_of_ne here, Headers.putLine_cons_of_ne here]
        exact .cons first ih

theorem same_setting {name value : String} {next next' : Request → Outcome}
    (goes : ∀ r, signer.SameOutcome (next r) (next' r)) :
    signer.SameOutcome (Outcome.setting r name value next)
      (Outcome.setting r name value next') := by
  unfold Outcome.setting
  split
  · exact goes _
  · exact .refl _

theorem same_signature {lead first second : String} (leads : signer.Leads lead)
    (ascii : Text.isAscii first.toList = true) (ascii' : Text.isAscii second.toList = true) :
    signer.SameOutcome (Outcome.setting r "authorization" (lead ++ first) .done)
      (Outcome.setting r "authorization" (lead ++ second) .done) := by
  -- Signatures are ASCII: what keeps an authorization from being set stands before them.
  have writable : Text.notAscii? (lead ++ second) = Text.notAscii? (lead ++ first) := by
    simp only [Text.notAscii?, String.toList_append, Text.findNotAscii?_append ascii,
      Text.findNotAscii?_append ascii']
  unfold Outcome.setting Request.set Headers.set
  rw [writable]
  cases (if r.headers.asciiOnly then Text.notAscii? (lead ++ first) else none) with
  | some problem => exact .refl _
  | none =>
      exact ⟨rfl, rfl, rfl, rfl, rfl,
        same_putLine (.signature leads) (same_lines r.headers.lines)⟩

theorem same_sign_v2 (older : signer.version = .v2)
    (alike : Text.surrogates? secret = Text.surrogates? signer.credentials.secretKey)
    (clock : Calendar.Reading) (r : Request) :
    signer.SameOutcome (V2.sign signer.credentials clock r)
      (V2.sign (signer.withSecret secret).credentials clock r) := by
  have leads : signer.Leads ("AWS " ++ signer.credentials.accessKey ++ ":") := by
    simp only [Leads, older]
  have ascii : ∀ key text, Text.isAscii (V2.signature key text).toList = true := by
    intro key text
    rw [V2.signature, Base64.encode, String.toList_ofList]
    exact Base64.isAscii_encodeChars _
  cases resource : V2.signingUrl r.url with
  | error e =>
      simp only [V2.sign, resource]
      exact .refl _
  | ok url =>
      cases time : clock.instant? with
      | none =>
          simp only [V2.sign, resource, time]
          exact .refl _
      | some instant =>
          simp only [V2.sign, resource, time]
          rcases Utf8.encode?_of_alike alike "" with ⟨found, error, error'⟩ | ⟨key, key', ok, ok'⟩
          · change Utf8.encode? signer.credentials.secretKey = _ at error
            change Utf8.encode? secret = _ at error'
            rw [error, withSecret, error']
            exact .refl _
          · change Utf8.encode? signer.credentials.secretKey = _ at ok
            change Utf8.encode? secret = _ at ok'
            rw [ok, withSecret, ok']
            exact same_setting fun dated => same_signature leads (ascii _ _) (ascii _ _)

theorem same_signHashed (newer : signer.version = .v4)
    (alike : Text.surrogates? secret = Text.surrogates? signer.credentials.secretKey)
    (clock : Calendar.Reading) (region : String) (r hashed : Request) :
    signer.SameOutcome (V4.signHashed signer.credentials clock region r hashed)
      (V4.signHashed (signer.withSecret secret).credentials clock region r hashed) := by
  have leads : ∀ stamp names, signer.Leads ("AWS4-HMAC-SHA256 Credential=" ++
      signer.credentials.accessKey ++ "/" ++ V4.scope stamp region ++ ", SignedHeaders=" ++ names ++
        ", Signature=") := by
    intro stamp names
    simp only [Leads, newer]
    exact ⟨stamp, region, names, rfl⟩
  have ascii : ∀ key stamp text, Text.isAscii (V4.signature key stamp region text).toList = true := by
    intro key stamp text
    rw [V4.signature, String.toList_ofList]
    exact Text.isAscii_hexOctets _
  unfold V4.signHashed
  cases clock.instant? with
  | none => exact .refl _
  | some instant =>
      dsimp only
      split
      · exact .refl _
      · rcases Utf8.encode?_of_alike alike "AWS4" with ⟨found, error, error'⟩ | ⟨key, key', ok, ok'⟩
        · rw [V4.rootKey, error, V4.rootKey, withSecret, error']
          exact .refl _
        · rw [V4.rootKey, ok, V4.rootKey, withSecret, ok']
          exact same_setting fun dated =>
            same_signature (leads _ _) (ascii _ _ _) (ascii _ _ _)

theorem same_sign {signer : Signer} {secret : Text.Loose}
    (alike : Text.surrogates? secret = Text.surrogates? signer.credentials.secretKey)
    (clock : Calendar.Reading) (region : String) (r : Request) :
    signer.SameOutcome (signer.sign clock region r)
      ((signer.withSecret secret).sign clock region r) := by
  cases version : signer.version with
  | v2 =>
      have version' : (signer.withSecret secret).version = .v2 := version
      rw [sign_of_v2 version, sign_of_v2 version']
      exact same_sign_v2 version alike clock r
  | v4 =>
      have version' : (signer.withSecret secret).version = .v4 := version
      rw [sign_of_v4 version, sign_of_v4 version', V4.sign_eq, V4.sign_eq]
      split
      · exact same_signHashed version alike clock region r r
      · exact same_setting fun hashed => same_signHashed version alike clock region r hashed

end Signer

end Signing

end BucketRegion
