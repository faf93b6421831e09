import BucketRegion.Proofs.Signing.Resigning
import BucketRegion.Proofs.Text.Blank

/-!
# Headers on several lines

The values of a header that stands on several lines are joined by a comma and a space before they
are signed. The text that is signed has the result, without superfluous blanks, at one place. So the
signature is that of the request with these lines joined in this way, and it is not the signature of
the request with the bare comma between them, unless there are two values and the second is empty.
-/

set_option autoImplicit false

namespace BucketRegion

open Http (Request Headers)

/-! ## Texts with a place for another text -/

/-- A text with a place in it: what stands there may change, and what stands around it does not. -/
def HasPlace (text : String → String) : Prop :=
  ∃ before after, ∀ x, text x = before ++ x ++ after

namespace HasPlace

variable {text : String → String}

theorem id : HasPlace fun x => x := ⟨"", "", fun x => by simp⟩

theorem append_left (held : HasPlace text) (lead : String) : HasPlace fun x => lead ++ text x := by
  obtain ⟨before, after, around⟩ := held
  exact ⟨lead ++ before, after, fun x => by simp [around, String.append_assoc]⟩

theorem append_right (held : HasPlace text) (tail : String) :
    HasPlace fun x => text x ++ tail := by
  obtain ⟨before, after, around⟩ := held
  exact ⟨before, after ++ tail, fun x => by simp [around, String.append_assoc]⟩

theorem intercalate (held : HasPlace text) (sep : String) (before after : List String) :
    HasPlace fun x => sep.intercalate (before ++ text x :: after) := by
  induction before with
  | nil =>
      cases after with
      | nil => simpa using held
      | cons next after =>
          simp only [List.nil_append, String.intercalate_cons_cons]
          exact (held.append_right sep).append_right _
  | cons first before ih =>
      have others (x : String) : before ++ text x :: after ≠ [] := by simp
      simp only [List.cons_append, String.intercalate_cons_of_ne_nil (others _)]
      exact ih.append_left (first ++ sep)

end HasPlace

/-- Where one element depends on a text, its place in the list does not. -/
theorem exists_map_around {α β : Type} {xs : List α} (unique : xs.Nodup) {x : α} (member : x ∈ xs)
    (entry : String → α → β) (fixed : ∀ y, y ≠ x → ∀ value, entry value y = entry "" y) :
    ∃ first last, (∀ b ∈ first ++ last, ∃ y ∈ xs, y ≠ x ∧ entry "" y = b) ∧
      ∀ value, xs.map (entry value) = first ++ entry value x :: last := by
  obtain ⟨before, after, rfl⟩ := List.append_of_mem member
  have apart : ∀ y ∈ before ++ after, y ≠ x := by
    rw [List.nodup_middle, List.nodup_cons] at unique
    rintro y among rfl
    exact unique.1 among
  refine ⟨before.map (entry ""), after.map (entry ""), fun b among => ?_, fun value => ?_⟩
  · rw [← List.map_append] at among
    obtain ⟨y, within, rfl⟩ := List.mem_map.mp among
    refine ⟨y, ?_, apart y within, rfl⟩
    rcases List.mem_append.mp within with early | late
    · exact List.mem_append_left _ early
    · exact List.mem_append_right _ (List.mem_cons_of_mem _ late)
  · have early := List.map_congr_left fun y among =>
      fixed y (apart y (List.mem_append_left after among)) value
    have late := List.map_congr_left fun y among =>
      fixed y (apart y (List.mem_append_right before among)) value
    rw [List.map_append, List.map_cons, early, late]

/-! ## The line of a header -/

namespace Http.Headers

variable {headers : Headers} {name : String}

/-- Where a name is there, setting it changes one of the merged lines. -/
theorem exists_merged_putLine (there : headers.contains name = true) :
    ∃ before after, (∀ line ∈ before ++ after, line.1 ≠ name ∧ line.1 ∈ headers.lines.map (·.1)) ∧
      ∀ value, merged ⟨putLine name value headers.lines, headers.asciiOnly⟩ =
        before ++ (name, value) :: after := by
  have member : name ∈ (headers.lines.map (·.1)).eraseDups :=
    List.mem_eraseDups.mpr (contains_iff.mp there)
  obtain ⟨before, after, others, around⟩ := exists_map_around (Signing.V4.nodup_eraseDups _) member
    (fun value other => (other, ", ".intercalate
      (valuesOf ⟨putLine name value headers.lines, headers.asciiOnly⟩ other)))
    (fun other apart value => by rw [valuesOf_putLine_of_ne apart, valuesOf_putLine_of_ne apart])
  refine ⟨before, after, fun line among => ?_, fun value => ?_⟩
  · obtain ⟨other, known, apart, rfl⟩ := others line among
    exact ⟨apart, List.mem_eraseDups.mp known⟩
  · rw [merged_eq, eraseDups_names_putLine (contains_iff.mp there), around, valuesOf_putLine]
    simp

end Http.Headers

namespace Signing

/-- Lines under their names, each name once, with the values without superfluous blanks. -/
def listed (clean : String → String) (lines : List (String × String)) : List String :=
  (V4.sortedNames (lines.map (·.1))).map fun name =>
    name ++ ":" ++ ",".intercalate
      ((lines.filter fun line => line.1 == name).map fun line => clean line.2)

theorem V4.canonicalHeaders_eq (lines : List (String × String)) :
    canonicalHeaders lines = "\n".intercalate (listed Text.collapseBlanks lines) := rfl

theorem V2.customHeaders_eq (lines : List (String × String)) :
    customHeaders lines = listed Text.trim
      ((lines.map fun line => (Text.lower line.1, line.2)).filter fun line =>
        (Text.dropLead? "x-amz-".toList line.1.toList).isSome) := rfl

/-- A value stands in one of the lines, once. -/
theorem exists_listed (clean : String → String) (before after : List (String × String))
    (name : String) :
    ∃ text first last, HasPlace text ∧ ∀ value,
      listed clean (before ++ (name, value) :: after) = first ++ text (clean value) :: last := by
  have names (value : String) : (before ++ (name, value) :: after).map (·.1) =
      before.map (·.1) ++ name :: after.map (·.1) := by simp
  have member : name ∈ V4.sortedNames (before.map (·.1) ++ name :: after.map (·.1)) := by simp
  let line (value other : String) : String := other ++ ":" ++ ",".intercalate
    (((before ++ (name, value) :: after).filter fun line => line.1 == other).map fun line =>
      clean line.2)
  have fixed (other : String) (apart : other ≠ name) (value : String) :
      line value other = line "" other := by
    have different : (name == other) = false := by simpa using apart.symm
    simp [line, List.filter_append, different]
  let own (x : String) : String := name ++ ":" ++ ",".intercalate
    (((before.filter fun line => line.1 == name).map fun line => clean line.2) ++
      x :: (after.filter fun line => line.1 == name).map fun line => clean line.2)
  have here (value : String) : line value name = own (clean value) := by simp [line, own]
  obtain ⟨first, last, _, around⟩ := exists_map_around (V4.nodup_eraseDups _) member line fixed
  refine ⟨own, first, last, (HasPlace.id.intercalate "," _ _).append_left (name ++ ":"),
    fun value => ?_⟩
  rw [listed, names, ← here, ← around]
  rfl

end Signing

open Signing

namespace SignatureVersion

/-- Whether a version signs the lines of a name as they are. -/
def signs : SignatureVersion → String → Bool
  | v4, name => !(V4.unsigned ++ [V4.dateHeader, "authorization"]).contains (Text.lower name)
  | v2, name => ["content-md5", "content-type"].contains (Text.lower name) ||
      (Text.dropLead? "x-amz-".toList (Text.lower name).toList).isSome

/-- What a version makes of the blanks of a value. -/
def clean : SignatureVersion → String → String
  | v4 => Text.collapseBlanks
  | v2 => Text.trim

/-- Whether the value of a name is in the text as it stands also. -/
def quotes : SignatureVersion → String → Bool
  | v4, name => name == V4.payloadHeader
  | v2, _ => false

end SignatureVersion

namespace Signing

variable {request : Request} {name : String} {clock : Calendar.Reading} {draft : Draft}

/-- Merging has joined the values already. -/
theorem draft?_joined (version : SignatureVersion) (clock : Calendar.Reading)
    (there : request.headers.contains name = true) :
    draft? version clock
      (request.put name (", ".intercalate (request.headers.valuesOf name))) =
      draft? version clock request := by
  refine draft?_congr clock rfl rfl ?_ fun _ => ?_
  · exact congrArg (List.filter _) (Headers.merged_joined there)
  · have held : request.headers.valuesOf name ≠ [] :=
      mt Headers.valuesOf_eq_nil_iff.mp (not_not.mpr (Headers.contains_iff.mp there))
    have same : (request.put name
        (", ".intercalate (request.headers.valuesOf name))).headers.get? V4.payloadHeader =
          request.headers.get? V4.payloadHeader := by
      by_cases own : V4.payloadHeader = name
      · rw [own, Request.get?_put_self, Headers.get?]
        split
        · next none => exact absurd none held
        · rfl
      · exact Request.get?_put_of_ne own request _
    rw [V4.payloadHash, same]
    rfl

/-- Where a name is there, setting it changes one of the lines that are read. -/
theorem exists_covered_put (version : SignatureVersion)
    (there : request.headers.contains name = true)
    (kept : version.written.contains (Text.lower name) = false) :
    ∃ before after, (∀ line ∈ before, line.1 ≠ name ∧ line.1 ∈ request.headers.lines.map (·.1)) ∧
      ∀ value, version.covered (request.put name value) = before ++ (name, value) :: after := by
  obtain ⟨before, after, others, merged⟩ := Headers.exists_merged_putLine there
  refine ⟨before.filter fun line => !version.written.contains (Text.lower line.1),
    after.filter fun line => !version.written.contains (Text.lower line.1),
    fun line member => others line (List.mem_append_left _ (List.mem_filter.mp member).1),
    fun value => ?_⟩
  rw [SignatureVersion.covered, Request.put, merged, List.filter_append, List.filter_cons, kept]
  rfl

/-! ## The value in the text of the newer version -/

namespace V4

theorem exists_signedLines {url : Url.Reference} {before after lines : List (String × String)}
    {old : String} (signed : Text.lower name ∉ unsigned)
    (taken : signedLines url (before ++ (name, old) :: after) = .ok lines) :
    ∃ first last, ∀ value, signedLines url (before ++ (name, value) :: after) =
      .ok (first ++ (Text.lower name, value) :: last) := by
  have low (value : String) : lowered (before ++ (name, value) :: after) =
      lowered before ++ (Text.lower name, value) :: lowered after := by simp [lowered, signed]
  have hosted (value : String) :
      (lowered (before ++ (name, value) :: after)).any (fun line => line.1 == "host") =
        (lowered (before ++ (name, old) :: after)).any fun line => line.1 == "host" := by
    rw [low, low]
    simp
  cases host : (lowered (before ++ (name, old) :: after)).any fun line => line.1 == "host" with
  | true =>
      refine ⟨lowered before, lowered after, fun value => ?_⟩
      rw [← low]
      exact if_pos ((hosted value).trans host)
  | false =>
      have missing (value : String) : ¬ ((lowered (before ++ (name, value) :: after)).any
          fun line => line.1 == "host") = true := by simp [hosted, host]
      rw [signedLines, ← lowered, if_neg (missing old)] at taken
      cases shown : hostValue? url with
      | error problem =>
          rw [shown] at taken
          cases taken
      | ok host? =>
          cases host? with
          | none =>
              rw [shown] at taken
              cases taken
          | some host =>
              refine ⟨lowered before, lowered after ++ [("host", host)], fun value => ?_⟩
              rw [signedLines, ← lowered, if_neg (missing value), shown, low]
              simp

theorem signedHeaders_value (first last : List (String × String)) (name value : String) :
    signedHeaders (first ++ (name, value) :: last) =
      signedHeaders (first ++ (name, "") :: last) := by simp [signedHeaders]

theorem exists_canonicalRequest (method : String) (url : Url.Reference)
    (first last : List (String × String)) (name : String) :
    ∃ before between, ∀ value hash,
      canonicalRequest method url (first ++ (name, value) :: last) hash =
        before ++ Text.collapseBlanks value ++ between ++ hash := by
  obtain ⟨text, lines, lines', held, listed⟩ :=
    exists_listed Text.collapseBlanks first last name
  obtain ⟨before, after, around⟩ := held.intercalate "\n" lines lines'
  dsimp only at around
  refine ⟨Text.upper method ++ "\n" ++ String.ofList url.path ++ "\n" ++
      canonicalQuery url.query ++ "\n" ++ before,
    after ++ "\n\n" ++ signedHeaders (first ++ (name, "") :: last) ++ "\n",
    fun value hash => ?_⟩
  rw [canonicalRequest, canonicalHeaders_eq, listed, around, signedHeaders_value]
  simp only [String.intercalate_cons_cons, String.intercalate_singleton, String.append_assoc]
  rfl

/-- The lines that are signed, with a place for the value of a header that is signed. -/
theorem exists_sourceLines (named : Named request.headers.lines)
    (there : request.headers.contains name = true)
    (signs : SignatureVersion.v4.signs name = true) (stamp : String) :
    ∃ before after, ∀ value, sourceLines (request.put name value) stamp =
      before ++ (name, value) :: after := by
  have member := Headers.contains_iff.mp there
  by_cases payload : name = payloadHeader
  · subst payload
    refine ⟨SignatureVersion.v4.covered request ++ [(dateHeader, stamp)], [], fun value => ?_⟩
    rw [sourceLines, covered_put (by decide), payloadHash, Request.get?_put_self]
    simp
  · obtain ⟨line, among, rfl⟩ := List.mem_map.mp member
    have kept : SignatureVersion.v4.written.contains (Text.lower line.1) = false := by
      have other : Text.lower line.1 ≠ payloadHeader :=
        mt (isPlain_payloadHeader.lower_eq_iff named among).mp payload
      simp only [SignatureVersion.signs, List.contains_append, Bool.not_or,
        Bool.and_eq_true] at signs
      simpa [SignatureVersion.written, written, other] using signs.2
    obtain ⟨before, after, _, covered⟩ := exists_covered_put .v4 there kept
    refine ⟨before, after ++ [(dateHeader, stamp), (payloadHeader, payloadHash request)],
      fun value => ?_⟩
    have hash : payloadHash (request.put line.1 value) = payloadHash request := by
      rw [payloadHash, Request.get?_put_of_ne (Ne.symm payload)]
      rfl
    rw [sourceLines, hash, covered, List.append_assoc, List.cons_append]

theorem payloadHash_put (request : Request) (name value : String) :
    payloadHash (request.put name value) =
      if SignatureVersion.v4.quotes name then value else payloadHash request := by
  by_cases own : name = payloadHeader
  · subst own
    rw [payloadHash, Request.get?_put_self]
    rfl
  · rw [if_neg (by simpa [SignatureVersion.quotes] using own), payloadHash,
      Request.get?_put_of_ne (Ne.symm own)]
    rfl

theorem exists_draft_put (named : Named request.headers.lines)
    (there : request.headers.contains name = true)
    (signs : SignatureVersion.v4.signs name = true)
    (drafted : draft? clock request = .ok draft) :
    ∃ before between, ∀ value, draft? clock (request.put name value) = .ok { draft with
      text := before ++ Text.collapseBlanks value ++ between ++
        if SignatureVersion.v4.quotes name then value else payloadHash request } := by
  have signed : Text.lower name ∉ unsigned := by
    simp only [SignatureVersion.signs, List.contains_append, Bool.not_or, Bool.and_eq_true] at signs
    simpa using signs.1
  rw [← show Signing.draft? .v4 clock request = draft? clock request from rfl,
    ← draft?_joined .v4 clock there] at drafted
  unfold Signing.draft? draft? at drafted
  dsimp only at drafted
  cases time : clock.instant? with
  | none =>
      rw [time] at drafted
      cases drafted
  | some instant =>
      rw [time] at drafted
      dsimp only at drafted
      obtain ⟨before, after, sources⟩ := exists_sourceLines named there signs instant.stamp
      rw [sources, Request.url_put, Request.method_put] at drafted
      split at drafted
      · cases drafted
      · next lines taken =>
          obtain rfl := Except.ok.inj drafted
          obtain ⟨first, last, around⟩ := exists_signedLines signed taken
          obtain ⟨before, between, canonical⟩ := exists_canonicalRequest request.method
            (.ofChars request.url.text.toList) first last (Text.lower name)
          have lined : lines = _ := Except.ok.inj (taken.symm.trans (around _))
          refine ⟨before, between, fun value => ?_⟩
          rw [draft?, time]
          dsimp only
          rw [sources, Request.url_put, Request.method_put, around, lined]
          dsimp only
          rw [canonical, payloadHash_put, signedHeaders_value,
            signedHeaders_value first last _ (", ".intercalate (request.headers.valuesOf name))]

end V4

/-! ## The value in the text of the older version -/

namespace V2

theorem isPlain_standard {std : String} (among : std ∈ ["content-md5", "content-type"]) :
    V4.IsPlain std := by
  simp only [List.mem_cons, List.not_mem_nil, or_false] at among
  rcases among with rfl | rfl
  · exact ⟨by decide, by simp⟩
  · exact ⟨by decide, by simp⟩

section

variable {before after : List (String × String)} {std : String}

theorem standardValue_of_first (first : ∀ line ∈ before, Text.lower line.1 ≠ std)
    (own : Text.lower name = std) (value : String) :
    standardValue (before ++ (name, value) :: after) std = Text.trim value := by
  have none : before.find? (fun line => Text.lower line.1 == std) = none :=
    List.find?_eq_none.mpr fun line member => by simpa using first line member
  rw [standardValue, List.find?_append, none, Option.none_or,
    List.find?_cons_of_pos (by simpa using own)]

theorem standardValue_of_ne (other : Text.lower name ≠ std) (value : String) :
    standardValue (before ++ (name, value) :: after) std =
      standardValue (before ++ (name, "") :: after) std := by
  rw [standardValue, standardValue, List.find?_append, List.find?_append]
  simp only [List.find?_cons, beq_eq_false_iff_ne.mpr other]

theorem customHeaders_of_none
    (unlike : (Text.dropLead? "x-amz-".toList (Text.lower name).toList).isSome = false)
    (value : String) :
    customHeaders (before ++ (name, value) :: after) =
      customHeaders (before ++ (name, "") :: after) := by
  rw [customHeaders_eq, customHeaders_eq]
  simp only [List.map_append, List.map_cons, List.filter_append, List.filter_cons, unlike,
    Bool.false_eq_true, if_false]

theorem exists_customHeaders
    (own : (Text.dropLead? "x-amz-".toList (Text.lower name).toList).isSome = true)
    (before after : List (String × String)) :
    ∃ text first last, HasPlace text ∧ ∀ value,
      customHeaders (before ++ (name, value) :: after) =
        first ++ text (Text.trim value) :: last := by
  obtain ⟨text, first, last, held, listed⟩ := exists_listed Text.trim
    ((before.map fun line => (Text.lower line.1, line.2)).filter fun line =>
      (Text.dropLead? "x-amz-".toList line.1.toList).isSome)
    ((after.map fun line => (Text.lower line.1, line.2)).filter fun line =>
      (Text.dropLead? "x-amz-".toList line.1.toList).isSome) (Text.lower name)
  refine ⟨text, first, last, held, fun value => ?_⟩
  rw [customHeaders_eq, ← listed, List.map_append, List.map_cons, List.filter_append,
    List.filter_cons, if_pos own]

end

/-- The text that is signed, with a place for the value of a header that is signed. -/
theorem exists_stringToSign {before : List (String × String)}
    (first : Text.lower name ∈ ["content-md5", "content-type"] →
      ∀ line ∈ before, Text.lower line.1 ≠ Text.lower name)
    (signs : SignatureVersion.v2.signs name = true) (after : List (String × String))
    (method : String) (url : Url.Reference) (date : String) :
    ∃ text, HasPlace text ∧ ∀ value,
      stringToSign method url (before ++ (name, value) :: after) date =
        text (Text.trim value) := by
  have kinds : Text.lower name = "content-md5" ∨ Text.lower name = "content-type" ∨
      (Text.dropLead? "x-amz-".toList (Text.lower name).toList).isSome = true := by
    simpa [SignatureVersion.signs, or_assoc] using signs
  let lines := before ++ (name, "") :: after
  rcases kinds with own | own | own
  · refine ⟨_, HasPlace.id.intercalate "\n" [Text.upper method]
      (standardValue lines "content-type" :: date :: customHeaders lines ++
        [canonicalResource url]), fun value => ?_⟩
    rw [stringToSign, standardValue_of_first (own ▸ first (by simp [own])) own,
      standardValue_of_ne (by rw [own]; decide), customHeaders_of_none (by rw [own]; decide)]
    rfl
  · refine ⟨_, HasPlace.id.intercalate "\n"
      [Text.upper method, standardValue lines "content-md5"]
      (date :: customHeaders lines ++ [canonicalResource url]), fun value => ?_⟩
    rw [stringToSign, standardValue_of_first (own ▸ first (by simp [own])) own,
      standardValue_of_ne (by rw [own]; decide), customHeaders_of_none (by rw [own]; decide)]
    rfl
  · have apart : ∀ std ∈ ["content-md5", "content-type"], Text.lower name ≠ std := by
      rintro std among rfl
      simp only [List.mem_cons, List.not_mem_nil, or_false] at among
      rcases among with same | same
      · rw [same] at own
        exact absurd own (by decide)
      · rw [same] at own
        exact absurd own (by decide)
    obtain ⟨text, before', after', held, custom⟩ := exists_customHeaders own before after
    refine ⟨_, held.intercalate "\n" ([Text.upper method, standardValue lines "content-md5",
      standardValue lines "content-type", date] ++ before') (after' ++ [canonicalResource url]),
      fun value => ?_⟩
    rw [stringToSign, standardValue_of_ne (apart "content-md5" (by simp)),
      standardValue_of_ne (apart "content-type" (by simp)), custom]
    simp [lines]

theorem not_written_of_signs (signs : SignatureVersion.v2.signs name = true) :
    SignatureVersion.v2.written.contains (Text.lower name) = false := by
  by_contra written
  have among : Text.lower name = "date" ∨ Text.lower name = "authorization" := by
    simpa [SignatureVersion.written, or_iff_not_imp_left] using written
  rcases among with same | same
  · rw [SignatureVersion.signs, same] at signs
    exact absurd signs (by decide)
  · rw [SignatureVersion.signs, same] at signs
    exact absurd signs (by decide)

theorem exists_draft_put (named : V4.Named request.headers.lines)
    (there : request.headers.contains name = true)
    (signs : SignatureVersion.v2.signs name = true)
    (drafted : draft? clock request = .ok draft) :
    ∃ text, HasPlace text ∧ ∀ value, draft? clock (request.put name value) =
      .ok { draft with text := text (Text.trim value) } := by
  obtain ⟨before, after, others, covered⟩ :=
    exists_covered_put .v2 there (not_written_of_signs signs)
  -- Of the standard names no two spellings are there.
  have first : Text.lower name ∈ ["content-md5", "content-type"] →
      ∀ line ∈ before, Text.lower line.1 ≠ Text.lower name := by
    intro standard line member same
    have plain := isPlain_standard standard
    obtain ⟨apart, known⟩ := others line member
    obtain ⟨source, among, shown⟩ := List.mem_map.mp known
    obtain ⟨own, ownAmong, ownShown⟩ := List.mem_map.mp (Headers.contains_iff.mp there)
    have left := (plain.lower_eq_iff named among).mp (by rw [shown]; exact same)
    have right := (plain.lower_eq_iff named ownAmong).mp (by rw [ownShown])
    exact apart (shown.symm.trans (left.trans (right.symm.trans ownShown)))
  rw [← show Signing.draft? .v2 clock request = draft? clock request from rfl,
    ← draft?_joined .v2 clock there] at drafted
  unfold Signing.draft? draft? at drafted
  dsimp only at drafted
  rw [Request.url_put, Request.method_put] at drafted
  cases resource : signingUrl request.url with
  | error error =>
      rw [resource] at drafted
      cases drafted
  | ok url =>
      cases time : clock.instant? with
      | none =>
          rw [resource, time] at drafted
          cases drafted
      | some instant =>
          rw [resource, time] at drafted
          obtain rfl := Except.ok.inj drafted
          obtain ⟨text, held, around⟩ := exists_stringToSign first signs after request.method
            (.ofChars url.text.toList) instant.headerDate
          refine ⟨text, held, fun value => ?_⟩
          rw [draft?, Request.url_put, resource, time]
          dsimp only
          rw [Request.method_put, covered, around]

end V2

/-! ## Lines that are joined by a bare comma -/

/-- The text that is signed has the value without superfluous blanks at one place, and that of the
digest of the payload as it stands at another. -/
theorem exists_draft_put {version : SignatureVersion} (named : V4.Named request.headers.lines)
    (there : request.headers.contains name = true) (signs : version.signs name = true)
    (drafted : draft? version clock request = .ok draft) :
    ∃ before between after, ∀ value, draft? version clock (request.put name value) =
      .ok { draft with
        text := before ++ version.clean value ++ between ++
          (if version.quotes name then value else "") ++ after } := by
  cases version with
  | v4 =>
      obtain ⟨before, between, drafts⟩ := V4.exists_draft_put named there signs drafted
      cases quoted : SignatureVersion.v4.quotes name with
      | true =>
          refine ⟨before, between, "", fun value => (drafts value).trans ?_⟩
          simp [quoted, SignatureVersion.clean]
      | false =>
          refine ⟨before, between, V4.payloadHash request, fun value => (drafts value).trans ?_⟩
          simp [quoted, SignatureVersion.clean]
  | v2 =>
      obtain ⟨text, ⟨before, after, around⟩, drafts⟩ :=
        V2.exists_draft_put named there signs drafted
      refine ⟨before, "", after, fun value => (drafts value).trans ?_⟩
      simp [around, SignatureVersion.quotes, SignatureVersion.clean]

theorem exists_reduces (version : SignatureVersion) :
    ∃ clean, Text.Reduces clean ∧ ∀ s, (version.clean s).toList = clean s.toList := by
  cases version with
  | v4 => exact ⟨_, Text.reduces_collapse, Text.toList_collapseBlanks⟩
  | v2 => exact ⟨_, Text.reduces_trimWhile, fun s => by simp [SignatureVersion.clean, Text.trim]⟩

section

variable {values : List String} (several : 2 ≤ values.length)
  (trimmed : ∀ v ∈ values, Text.trim v = v)

theorem toList_joined (sep : String) (values : List String) :
    (sep.intercalate values).toList = sep.toList.intercalate (values.map String.toList) :=
  String.toList_intercalate

include trimmed in
theorem startsBare_values : ∀ v ∈ values.map String.toList, Text.StartsBare v := by
  intro v member
  obtain ⟨value, among, rfl⟩ := List.mem_map.mp member
  exact Text.startsBare_of_trim_eq (trimmed value among)

include trimmed in
theorem length_clean_joined_le (version : SignatureVersion) :
    (version.clean (",".intercalate values)).length ≤
      (version.clean (", ".intercalate values)).length := by
  obtain ⟨clean, reduces, shown⟩ := exists_reduces version
  rw [← String.length_toList, ← String.length_toList, shown, shown, toList_joined, toList_joined]
  exact (reduces.length_le (startsBare_values trimmed)).1

include several trimmed in
/-- The space after a comma goes at the end only. -/
theorem pair_of_length_clean_joined {version : SignatureVersion}
    (same : (version.clean (",".intercalate values)).length =
      (version.clean (", ".intercalate values)).length) : ∃ v, values = [v, ""] := by
  obtain ⟨clean, reduces, shown⟩ := exists_reduces version
  rw [← String.length_toList, ← String.length_toList, shown, shown, toList_joined,
    toList_joined] at same
  rcases (reduces.length_le (startsBare_values trimmed)).2 same with few | ⟨v, pair⟩
  · rw [List.length_map] at few
    omega
  · obtain ⟨first, rest, rfl, _, others⟩ := List.map_eq_cons_iff.mp pair
    obtain ⟨last, none, rfl, empty, nothing⟩ := List.map_eq_cons_iff.mp others
    rw [List.map_eq_nil_iff.mp nothing, String.toList_eq_nil_iff.mp empty]
    exact ⟨first, rfl⟩

theorem clean_joined_pair (version : SignatureVersion) {v : String} (trimmed : Text.trim v = v) :
    version.clean (",".intercalate [v, ""]) = version.clean (", ".intercalate [v, ""]) := by
  obtain ⟨clean, reduces, shown⟩ := exists_reduces version
  rw [← String.toList_inj, shown, shown, toList_joined, toList_joined]
  simpa [List.intercalate_cons_cons] using
    (reduces.ending (Text.startsBare_of_trim_eq trimmed)).symm

theorem length_joined (v : String) (values : List String) :
    (",".intercalate (v :: values)).length + values.length =
      (", ".intercalate (v :: values)).length := by
  induction values generalizing v with
  | nil => simp
  | cons w values ih =>
      have later := ih w
      have comma : ",".length = 1 := rfl
      have spaced : ", ".length = 2 := rfl
      simp only [String.intercalate_cons_cons, String.length_append, List.length_cons]
      omega

include several in
theorem length_joined_lt : (",".intercalate values).length < (", ".intercalate values).length := by
  cases values with
  | nil => cases several
  | cons v values =>
      have difference := length_joined v values
      rw [List.length_cons] at several
      omega

end

end Signing

/-- The request with one line in the place of all lines of a name, their values joined. -/
def Http.Request.joined (sep name : String) (request : Request) : Request :=
  request.put name (sep.intercalate (request.headers.valuesOf name))

namespace Signing

variable {version : SignatureVersion} {clock : Calendar.Reading} {request : Request} {name : String}
  {draft : Draft}

theorem contains_of_several (several : 2 ≤ (request.headers.valuesOf name).length) :
    request.headers.contains name = true := by
  rw [Headers.contains_iff]
  refine not_not.mp (mt Headers.valuesOf_eq_nil_iff.mpr fun none => ?_)
  rw [none] at several
  cases several

/-- With a bare comma the text that is signed is another one, unless the second of two values is
empty and the text has nothing but the reduced value. -/
theorem draft?_joined_bare (named : V4.Named request.headers.lines)
    (signs : version.signs name = true) (several : 2 ≤ (request.headers.valuesOf name).length)
    (trimmed : ∀ v ∈ request.headers.valuesOf name, Text.trim v = v)
    (drafted : draft? version clock request = .ok draft) :
    ∃ other, draft? version clock (request.joined "," name) = .ok other ∧
      other.date = draft.date ∧ other.names = draft.names ∧
      (other.text = draft.text ↔
        version.quotes name = false ∧ ∃ v, request.headers.valuesOf name = [v, ""]) := by
  have there := contains_of_several several
  obtain ⟨before, between, after, drafts⟩ := exists_draft_put named there signs drafted
  have own := (draft?_joined version clock there).symm.trans (drafts _)
  have text := congrArg Draft.text (Except.ok.inj (drafted.symm.trans own))
  refine ⟨_, drafts (",".intercalate (request.headers.valuesOf name)), rfl, rfl, ?_⟩
  have shorter := length_clean_joined_le trimmed version
  have less := length_joined_lt several
  dsimp only at text ⊢
  rw [text]
  constructor
  · intro same
    have lengths := congrArg String.length same
    simp only [String.length_append] at lengths
    cases quoted : version.quotes name with
    | true =>
        rw [if_pos quoted, if_pos quoted] at lengths
        omega
    | false =>
        rw [if_neg (by simp [quoted]), if_neg (by simp [quoted])] at lengths
        have reduced : (version.clean (",".intercalate (request.headers.valuesOf name))).length =
            (version.clean (", ".intercalate (request.headers.valuesOf name))).length := by omega
        exact ⟨rfl, pair_of_length_clean_joined several trimmed reduced⟩
  · rintro ⟨quoted, v, pair⟩
    have bare : Text.trim v = v := trimmed v (by simp [pair])
    rw [if_neg (by simp [quoted]), if_neg (by simp [quoted]), pair, clean_joined_pair version bare]

/-- A header that is signed from several lines: its values are joined by a comma and a space. With
the bare comma between them, which both versions ask for, the request is signed alike if there are
two values, of which the second is empty, and the text does not quote them. Otherwise the text that
is signed is another one. -/
theorem signedAlike_joined (task : Task) (named : V4.Named request.headers.lines)
    (signs : task.signer.version.signs name = true)
    (several : 2 ≤ (request.headers.valuesOf name).length)
    (trimmed : ∀ v ∈ request.headers.valuesOf name, Text.trim v = v) :
    SignedAlike task request (request.joined ", " name) ∧
      ((task.signer.version.quotes name = false ∧
          ∃ v, request.headers.valuesOf name = [v, ""]) →
        (task.sign request).problem = none → SignedAlike task request (request.joined "," name)) ∧
      (¬ (task.signer.version.quotes name = false ∧
          ∃ v, request.headers.valuesOf name = [v, ""]) →
        ∀ draft, draft? task.signer.version task.clock request = .ok draft →
          ∃ other, draft? task.signer.version task.clock (request.joined "," name) = .ok other ∧
            other.date = draft.date ∧ other.names = draft.names ∧ other.text ≠ draft.text) := by
  have there := contains_of_several several
  refine ⟨signedAlike_of_draft rfl (draft?_joined _ _ there), fun ends returned => ?_,
    fun apart => ?_⟩
  · obtain ⟨draft, _, drafted, _⟩ := Signer.draft_of_sign returned
    obtain ⟨other, found, date, names, text⟩ :=
      draft?_joined_bare named signs several trimmed drafted
    have same : other = draft := Draft.ext date names (text.mpr ends)
    exact signedAlike_of_draft rfl (found.trans (same ▸ drafted.symm))
  · intro draft drafted
    obtain ⟨other, found, date, names, text⟩ :=
      draft?_joined_bare named signs several trimmed drafted
    exact ⟨other, found, date, names, mt text.mp apart⟩

/-! ## A tag on two lines -/

section

open Sample

/-- The tag of this request has the values "a" and "b". -/
theorem tagged_repeats :
    V4.Named (tagged []).headers.lines ∧ SignatureVersion.v2.signs "x-amz-meta-tag" = true ∧
      (tagged []).headers.valuesOf "x-amz-meta-tag" = ["a", "b"] ∧
      ∀ v ∈ ["a", "b"], Text.trim v = v :=
  ⟨V4.named_ofLines _, by decide, by decide +kernel, by decide +kernel⟩

theorem signedAlike_joined_tagged :
    (V4.Named (tagged []).headers.lines ∧ SignatureVersion.v2.signs "x-amz-meta-tag" = true ∧
      2 ≤ ((tagged []).headers.valuesOf "x-amz-meta-tag").length ∧
      ∀ v ∈ (tagged []).headers.valuesOf "x-amz-meta-tag", Text.trim v = v) ∧
    SignedAlike lastTask (tagged []) ((tagged []).joined ", " "x-amz-meta-tag") ∧
      ∃ draft other, draft? .v2 noon (tagged []) = .ok draft ∧
        draft? .v2 noon ((tagged []).joined "," "x-amz-meta-tag") = .ok other ∧
        other.date = draft.date ∧ other.names = draft.names ∧ other.text ≠ draft.text := by
  obtain ⟨named, signs, values, trimmed⟩ := tagged_repeats
  have several : 2 ≤ ((tagged []).headers.valuesOf "x-amz-meta-tag").length := by
    rw [values]
    decide
  rw [← values] at trimmed
  have apart : ¬ (SignatureVersion.v2.quotes "x-amz-meta-tag" = false ∧
      ∃ v, (tagged []).headers.valuesOf "x-amz-meta-tag" = [v, ""]) := by
    rw [values]
    rintro ⟨_, v, pair⟩
    simp at pair
  obtain ⟨spaced, _, bare⟩ := signedAlike_joined lastTask named signs several trimmed
  have there : (draft? .v2 noon (tagged [])).toOption.isSome = true := by decide +kernel
  obtain ⟨draft, drafted⟩ := Option.isSome_iff_exists.mp there
  obtain ⟨other, found, date, names, text⟩ := bare apart draft (toOption_eq_some.mp drafted)
  exact ⟨⟨named, signs, several, trimmed⟩, spaced, draft, other, toOption_eq_some.mp drafted,
    found, date, names, text⟩

/-- With one line "a,b" in the place of its two lines, this request gets another signature. -/
theorem tagged_signed_apart :
    (tagged []).headers.valuesOf "x-amz-meta-tag" = ["a", "b"] ∧
      ((tagged []).joined "," "x-amz-meta-tag").headers.lines =
        [("host", "s3.amazonaws.com"), ("x-amz-meta-tag", "a,b"),
          ("date", "Sun, 18 Oct 2026 09:30:00 GMT")] ∧
      (lastTask.sign (tagged [])).problem = none ∧
      (lastTask.sign ((tagged []).joined "," "x-amz-meta-tag")).problem = none ∧
      (lastTask.sign ((tagged []).joined "," "x-amz-meta-tag")).request.headers.get?
          "authorization" ≠
        (lastTask.sign (tagged [])).request.headers.get? "authorization" := by
  decide +kernel

end

end Signing

end BucketRegion
