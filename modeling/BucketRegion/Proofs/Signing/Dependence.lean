import BucketRegion.Proofs.Signing.Path

/-!
# What a signature depends on

Each version reads a part of a request. The older one reads the method, the path, the parameters
that name a part of a resource, and the headers about the content and of the service; the newer one
reads all parameters in any order and all headers but a few. Requests that agree on this part get
the same date and authorization, whatever else differs.

Two things are read besides. A request without a host header is signed by the newer version for the
host in the text of its URL. And the older version signs the text of another URL, whose path is read
as that of the first one unless an implied port is all that makes up the authority.
-/

set_option autoImplicit false

namespace BucketRegion

open Http (Request Headers)

namespace Url

/-- The parameters of a query, as a service reads them; an empty query has none. -/
def parameters (url : Url) : List (List Char × List Char) :=
  if url.query.getD "" = "" then [] else Signing.V2.parameters (url.query.getD "")

/-- Whether an authority is still there when it has been read anew. One that is no more than a port
which the scheme implies is not. -/
def KeepsAuthority (url : Url) : Prop := url.reviewed.hasAuthority = url.hasAuthority

instance (url : Url) : Decidable url.KeepsAuthority := by
  unfold KeepsAuthority
  infer_instance

theorem keepsAuthority_of_host {url : Url} (host : url.host ≠ "") : url.KeepsAuthority := by
  have some : url.host.toList.isEmpty = false := by simpa using host
  rw [KeepsAuthority, hasAuthority, hasAuthority, isEmpty_host_reviewed, some]
  simp

theorem parameters_perm_nil {url other : Url} (perm : other.parameters.Perm url.parameters)
    (empty : url.query.getD "" = "") : other.query.getD "" = "" := by
  rw [parameters, parameters, if_pos empty] at perm
  by_contra some
  rw [if_neg some] at perm
  exact Text.splitOn_ne_nil _ _ (List.map_eq_nil_iff.mp perm.eq_nil)

end Url

namespace Signing

/-! ## Lines with the same values -/

/-- Lines that have the same values under each name, in whatever order the names stand. -/
def SameValues (lines lines' : List (String × String)) : Prop :=
  ∀ name, ((lines'.filter fun line => line.1 == name).map (·.2)) =
    (lines.filter fun line => line.1 == name).map (·.2)

section

variable {lines lines' : List (String × String)}

theorem values_ne_nil {name : String} :
    ((lines.filter fun line => line.1 == name).map (·.2)) ≠ [] ↔ name ∈ lines.map (·.1) := by
  simp [List.filter_eq_nil_iff]

theorem SameValues.mem_names_iff (same : SameValues lines lines') (name : String) :
    name ∈ lines'.map (·.1) ↔ name ∈ lines.map (·.1) := by
  rw [← values_ne_nil, ← values_ne_nil, same name]

theorem V4.valuesUnder_of_not_small {name : String} (capital : Text.lower name ≠ name) :
    valuesUnder name lines = [] := by
  by_contra some
  obtain ⟨line, _, rfl⟩ := valuesUnder_ne_nil.mp some
  exact capital (Text.lower_lower line.1)

theorem V4.sortedNames_congr {names names' : List String}
    (members : ∀ name, name ∈ names' ↔ name ∈ names) : sortedNames names' = sortedNames names :=
  sortedNames_eq (fun name => (members name).trans mem_sortedNames.symm)
    (ascending_sortedNames names)

theorem listed_congr (clean : String → String) (same : SameValues lines lines') :
    listed clean lines' = listed clean lines := by
  rw [listed, listed, V4.sortedNames_congr same.mem_names_iff]
  refine List.map_congr_left fun name _ => ?_
  have cleaned (xs : List (String × String)) : (xs.map fun line => clean line.2) =
      (xs.map (·.2)).map clean := by
    rw [List.map_map]
    rfl
  rw [cleaned, cleaned, same name]

theorem V4.signedHeaders_congr (same : SameValues lines lines') :
    signedHeaders lines' = signedHeaders lines := by
  rw [signedHeaders, signedHeaders, sortedNames_congr fun name => ?_]
  have shown (xs : List (String × String)) : (xs.map fun line => Text.trim (Text.lower line.1)) =
      (xs.map (·.1)).map fun held => Text.trim (Text.lower held) := by
    rw [List.map_map]
    rfl
  rw [shown, shown, List.mem_map, List.mem_map]
  constructor
  · rintro ⟨held, member, rfl⟩
    exact ⟨held, (same.mem_names_iff held).mp member, rfl⟩
  · rintro ⟨held, member, rfl⟩
    exact ⟨held, (same.mem_names_iff held).mpr member, rfl⟩

end

/-! ## The older version -/

namespace V2

open Text (splitOn)
open V4 (valuesUnder)

/-- The parameters of a URL that name a part of a resource. -/
def partsOf (url : Url) : List (List Char × List Char) :=
  url.parameters.filter fun parameter => subresources.contains (String.ofList parameter.1)

/-- Two requests that agree on what the older version reads. A key without a value counts as one
with an empty value. -/
structure ReadsAlike (request other : Request) : Prop where
  method : other.method = request.method
  path : other.url.writtenPath = request.url.writtenPath
  parts : partsOf other.url = partsOf request.url
  headers : ∀ name, SignatureVersion.v2.signs name = true →
    valuesUnder name other.headers.merged = valuesUnder name request.headers.merged
  kept : request.url.KeepsAuthority ∧ other.url.KeepsAuthority

section

variable {lines lines' : List (String × String)} {std : String}

theorem standardValue_eq (lines : List (String × String)) (std : String) :
    standardValue lines std = ((valuesUnder std lines).head?.map Text.trim).getD "" := by
  rw [standardValue, valuesUnder, List.head?_map, List.head?_filter]
  cases lines.find? fun line => Text.lower line.1 == std <;> rfl

/-- The values that lines of the service's own headers have under a name. -/
theorem values_own (name : String) (lines : List (String × String)) :
    ((((lines.map fun line => (Text.lower line.1, line.2)).filter fun line =>
        (Text.dropLead? "x-amz-".toList line.1.toList).isSome).filter
          fun line => line.1 == name).map (·.2)) =
      if (Text.dropLead? "x-amz-".toList name.toList).isSome then valuesUnder name lines
      else [] := by
  rw [List.filter_filter, List.filter_map, List.map_map]
  split
  · next own =>
      refine congrArg (List.map _) (List.filter_congr fun line _ => ?_)
      by_cases here : Text.lower line.1 = name
      · simp only [Function.comp_apply, here, own, Bool.and_true]
      · simp [here]
  · next other =>
      rw [List.map_eq_nil_iff, List.filter_eq_nil_iff]
      intro line _
      by_cases here : Text.lower line.1 = name
      · simpa [here] using other
      · simp [here]

theorem customHeaders_congr
    (same : ∀ name, (Text.dropLead? "x-amz-".toList name.toList).isSome = true →
      valuesUnder name lines' = valuesUnder name lines) :
    customHeaders lines' = customHeaders lines := by
  rw [customHeaders_eq, customHeaders_eq]
  refine listed_congr Text.trim fun name => ?_
  rw [values_own, values_own]
  split
  · next own => exact same name own
  · rfl

end

/-! ### Parts of the resource -/

/-- A parameter as it follows the path in the text that is signed. -/
def shownPart (parameter : List Char × List Char) : String × Option String :=
  (String.ofList parameter.1,
    if parameter.2 = [] then none
    else some (Url.decodeText (String.ofList (dropEquals parameter.2))))

theorem resourceParts_signedQuery (query : String) :
    resourceParts (signedQuery query).toList =
      (((parameters query).filter fun parameter =>
        subresources.contains (String.ofList parameter.1)).map shownPart).mergeSort
          fun a b => a.1 ≤ b.1 := by
  have parts : (splitOn '&' (signedQuery query).toList) = (parameters query).map signedPart := by
    rw [splitOn_signedQuery, List.map_congr_left fun part _ => dropEquals_eq_signedPart part,
      parameters, List.map_map]
    rfl
  unfold resourceParts
  dsimp only
  rw [parts, List.map_map, List.map_congr_left (g := shownPart) fun parameter member => ?_,
    List.filter_map]
  · rfl
  · obtain ⟨part, _, rfl⟩ := List.mem_map.mp member
    have keyless := Url.Reference.not_mem_cutAtMark '=' part
    rw [Function.comp_apply, signedPart, shownPart]
    by_cases empty : (Url.Reference.cutAtMark '=' part).2 = []
    · rw [if_pos empty, if_pos empty, Text.cut?_of_not_mem keyless]
    · rw [if_neg empty, if_neg empty, Text.cut?_append keyless]

theorem shownSubresources_congr {query query' : String}
    (same : ((parameters query').filter fun parameter =>
        subresources.contains (String.ofList parameter.1)) =
      (parameters query).filter fun parameter =>
        subresources.contains (String.ofList parameter.1)) :
    shownSubresources (signedQuery query').toList =
      shownSubresources (signedQuery query).toList := by
  have nonempty (query : List Char) :
      (if query.isEmpty then [] else resourceParts query) = resourceParts query := by
    cases query with
    | nil => decide +kernel
    | cons c query => rfl
  rw [shownSubresources, shownSubresources, nonempty, nonempty, resourceParts_signedQuery,
    resourceParts_signedQuery, same]

theorem partsOf_eq (url : Url) :
    partsOf url = (parameters (url.query.getD "")).filter fun parameter =>
      subresources.contains (String.ofList parameter.1) := by
  rw [partsOf, Url.parameters]
  split
  · next empty =>
      rw [empty]
      decide
  · rfl

/-! ### The text that is signed -/

section

variable {url signing : Url} {request other : Request}

theorem writtenQuery_signingUrl (canonical : url.IsCanonical)
    (made : signingUrl url = .ok signing) :
    signing.writtenQuery = (signedQuery (url.query.getD "")).toList := by
  have keeps := keeps_signingUrl canonical made
  rw [Url.writtenQuery, (Url.path_query_ofChars_text keeps.canonical).2, keeps.query]
  cases url.query with
  | none => rfl
  | some query => rfl

theorem writtenPath_signingUrl (canonical : url.IsCanonical) (kept : url.KeepsAuthority)
    (made : signingUrl url = .ok signing) : signing.writtenPath = url.writtenPath := by
  have keeps := keeps_signingUrl canonical made
  rw [Url.writtenPath, Url.writtenPath, (Url.path_query_ofChars_text keeps.canonical).1,
    (Url.path_query_ofChars_text canonical).1]
  cases asked : url.query with
  | none =>
      rw [signingUrl, asked] at made
      cases made
      rfl
  | some query =>
      rcases (signingUrl_eq_ok canonical asked).mp made with ⟨_, rfl⟩ | ⟨_, _, whole⟩
      · rfl
      · have front : signing.hasAuthority = url.hasAuthority := by
          rw [whole, ← kept]
          rfl
        rw [Url.leftPath, Url.leftPath, front, whole]
        rfl

end

end V2

theorem V4.valuesUnder_filter (keep : String → Bool) (name : String)
    (lines : List (String × String)) :
    valuesUnder name (lines.filter fun line => keep (Text.lower line.1)) =
      if keep name then valuesUnder name lines else [] := by
  rw [valuesUnder, List.filter_filter, valuesUnder]
  split
  · next kept =>
      refine congrArg (List.map _) (List.filter_congr fun line _ => ?_)
      by_cases here : Text.lower line.1 = name
      · simp only [here, kept, Bool.and_true]
      · simp [here]
  · next dropped =>
      rw [List.map_eq_nil_iff, List.filter_eq_nil_iff]
      intro line _
      by_cases here : Text.lower line.1 = name
      · simpa [here] using dropped
      · simp [here]

theorem V4.valuesUnder_eq_of_filter {keep : String → Bool} {lines lines' : List (String × String)}
    (same : (lines'.filter fun line => keep (Text.lower line.1)) =
      lines.filter fun line => keep (Text.lower line.1))
    {name : String} (kept : keep name = true) :
    valuesUnder name lines' = valuesUnder name lines := by
  have values := congrArg (valuesUnder name) same
  rwa [valuesUnder_filter, valuesUnder_filter, if_pos kept, if_pos kept] at values

theorem valuesUnder_covered (version : SignatureVersion) (request : Request) (name : String) :
    V4.valuesUnder name (version.covered request) =
      if version.written.contains name then []
      else V4.valuesUnder name request.headers.merged := by
  rw [SignatureVersion.covered, V4.valuesUnder_filter fun name => !version.written.contains name]
  cases version.written.contains name <;> rfl

section

variable {request other : Request} {signing signing' : Url}

theorem V2.draft?_of_readsAlike (clock : Calendar.Reading) (alike : ReadsAlike request other)
    (canonical : request.url.IsCanonical) (canonical' : other.url.IsCanonical)
    (made : signingUrl request.url = .ok signing)
    (made' : signingUrl other.url = .ok signing') :
    draft? clock other = draft? clock request := by
  have unwritten : ∀ name, SignatureVersion.v2.signs name = true →
      V4.valuesUnder name (SignatureVersion.v2.covered other) =
        V4.valuesUnder name (SignatureVersion.v2.covered request) := by
    intro name signs
    rw [valuesUnder_covered, valuesUnder_covered, alike.headers name signs]
  have standard : ∀ std ∈ ["content-md5", "content-type"],
      standardValue (SignatureVersion.v2.covered other) std =
        standardValue (SignatureVersion.v2.covered request) std := by
    intro std among
    rw [standardValue_eq, standardValue_eq, unwritten std]
    simp only [List.mem_cons, List.not_mem_nil, or_false] at among
    rcases among with rfl | rfl
    · decide
    · decide
  have custom : customHeaders (SignatureVersion.v2.covered other) =
      customHeaders (SignatureVersion.v2.covered request) := by
    refine customHeaders_congr fun name own => ?_
    by_cases small : Text.lower name = name
    · refine unwritten name ?_
      rw [SignatureVersion.signs, small, own, Bool.or_true]
    · rw [V4.valuesUnder_of_not_small small, V4.valuesUnder_of_not_small small]
  have resource : canonicalResource (.ofChars signing'.text.toList) =
      canonicalResource (.ofChars signing.text.toList) := by
    have path : signing'.writtenPath = signing.writtenPath := by
      rw [writtenPath_signingUrl canonical' alike.kept.2 made',
        writtenPath_signingUrl canonical alike.kept.1 made, alike.path]
    have parts := alike.parts
    rw [partsOf_eq, partsOf_eq] at parts
    have query : shownSubresources signing'.writtenQuery =
        shownSubresources signing.writtenQuery := by
      rw [writtenQuery_signingUrl canonical' made', writtenQuery_signingUrl canonical made]
      exact shownSubresources_congr parts
    rw [canonicalResource_eq, canonicalResource_eq]
    exact congrArg₂ (fun path parts => String.ofList path ++ parts) path query
  rw [draft?, draft?, made, made']
  cases clock.instant? with
  | none => rfl
  | some instant =>
      dsimp only
      rw [stringToSign, stringToSign, alike.method, standard _ (by simp), standard _ (by simp),
        custom, resource]

end

/-! ## The newer version -/

namespace V4

/-- Two requests that agree on what the newer version reads. The order of the parameters does not
matter, and a digest that is given counts as that of the body. -/
structure ReadsAlike (request other : Request) : Prop where
  method : other.method = request.method
  path : other.url.writtenPath = request.url.writtenPath
  parameters : other.url.parameters.Perm request.url.parameters
  payload : payloadHash other = payloadHash request
  headers : ∀ name, SignatureVersion.v4.signs name = true → name ≠ payloadHeader →
    valuesUnder name other.headers.merged = valuesUnder name request.headers.merged
  host : valuesUnder "host" request.headers.merged = [] →
    hostValue? (.ofChars other.url.text.toList) = hostValue? (.ofChars request.url.text.toList)

/-! ### Parameters in order -/

theorem pairLe_trans {a b c : String × String} (first : pairLe a b = true)
    (second : pairLe b c = true) : pairLe a c = true := by
  unfold pairLe at *
  simp only [beq_iff_eq] at *
  split at first
  · next same =>
      rw [same]
      split at second
      · simp only [decide_eq_true_eq] at *
        rw [if_pos ‹_›]
        exact decide_eq_true (String.le_trans first second)
      · rw [if_neg ‹_›]
        exact second
  · next apart =>
      simp only [decide_eq_true_eq] at first
      split at second
      · next same =>
          rw [← same, if_neg apart]
          exact decide_eq_true first
      · simp only [decide_eq_true_eq] at second
        split
        · next same =>
            rw [same] at first
            exact absurd (String.le_antisymm first second) (by rw [← same]; exact apart)
        · exact decide_eq_true (String.le_trans first second)

theorem pairLe_total (a b : String × String) : (pairLe a b || pairLe b a) = true := by
  unfold pairLe
  by_cases same : a.1 = b.1
  · simpa [same] using String.le_total a.2 b.2
  · simpa [same, Ne.symm same] using String.le_total a.1 b.1

theorem pairLe_antisymm {a b : String × String} (below : pairLe a b = true)
    (above : pairLe b a = true) : a = b := by
  unfold pairLe at *
  by_cases same : a.1 = b.1
  · simp only [same, beq_self_eq_true, if_true, decide_eq_true_eq] at below above
    exact Prod.ext same (String.le_antisymm below above)
  · have other : ¬ b.1 = a.1 := Ne.symm same
    simp only [beq_iff_eq, same, other, if_false, decide_eq_true_eq] at below above
    exact absurd (String.le_antisymm below above) same

theorem mergeSort_pairLe_congr {pairs pairs' : List (String × String)}
    (perm : pairs'.Perm pairs) : pairs'.mergeSort pairLe = pairs.mergeSort pairLe := by
  have sorted (xs : List (String × String)) :
      (xs.mergeSort pairLe).Pairwise fun a b => pairLe a b = true := by
    apply List.pairwise_mergeSort
    · exact fun _ _ _ => pairLe_trans
    · exact pairLe_total
  have whole : (pairs'.mergeSort pairLe).Perm (pairs.mergeSort pairLe) :=
    (List.mergeSort_perm _ _).trans (perm.trans (List.mergeSort_perm _ _).symm)
  exact whole.eq_of_pairwise (fun _ _ _ _ => pairLe_antisymm) (sorted pairs') (sorted pairs)

theorem canonicalQuery_congr {url other : Url} (perm : other.parameters.Perm url.parameters) :
    canonicalQuery (other.query.getD "").toList = canonicalQuery (url.query.getD "").toList := by
  by_cases empty : url.query.getD "" = ""
  · rw [empty, Url.parameters_perm_nil perm empty]
  · have some : other.query.getD "" ≠ "" := fun none =>
      empty (Url.parameters_perm_nil perm.symm none)
    have nonempty {query : String} (some : query ≠ "") : query.toList.isEmpty = false := by
      simpa using some
    rw [Url.parameters, Url.parameters, if_neg empty, if_neg some] at perm
    have pairs (query : String) : ((Text.splitOn '&' query.toList).map fun part =>
        (String.ofList (Url.Reference.cutAtMark '=' part).1,
          String.ofList (Url.Reference.cutAtMark '=' part).2)) =
        (V2.parameters query).map fun parameter =>
          (String.ofList parameter.1, String.ofList parameter.2) := by
      rw [V2.parameters, List.map_map]
      rfl
    unfold canonicalQuery
    rw [nonempty empty, nonempty some]
    dsimp only
    rw [pairs, pairs, mergeSort_pairLe_congr (perm.map _)]

/-! ### Lines that are signed -/

section

variable {lines lines' : List (String × String)} {request other : Request}

theorem signedLines_of_hostless (url : Url.Reference) (hostless : valuesUnder "host" lines = []) :
    signedLines url lines =
      match hostValue? url with
      | .error problem => .error problem
      | .ok none => .error .noHost
      | .ok (some host) => .ok (lowered lines ++ [("host", host)]) := by
  have absent : "host" ∉ (lowered lines).map (·.1) := fun member =>
    (mem_names_lowered.mp member).2 hostless
  have missing : ¬ ((lowered lines).any fun line => line.1 == "host") = true := by
    rw [List.any_eq_true]
    rintro ⟨line, among, same⟩
    exact absent (List.mem_map.mpr ⟨line, among, eq_of_beq same⟩)
  unfold signedLines
  exact if_neg missing

theorem sameValues_lowered
    (same : ∀ name ∉ unsigned, valuesUnder name lines' = valuesUnder name lines) :
    SameValues (lowered lines) (lowered lines') := by
  intro name
  by_cases signed : name ∈ unsigned
  · have none (lines : List (String × String)) :
        (((lowered lines).filter fun line => line.1 == name).map (·.2)) = [] := by
      by_contra some
      exact (mem_names_lowered.mp (values_ne_nil.mp some)).1 signed
    rw [none, none]
  · rw [filter_lowered signed, filter_lowered signed, same name signed]

theorem SameValues.append (same : SameValues lines lines') (more : List (String × String)) :
    SameValues (lines ++ more) (lines' ++ more) := by
  intro name
  rw [List.filter_append, List.filter_append, List.map_append, List.map_append, same name]

/-- Lines with the same values are refused alike, or taken with the same values. -/
theorem signedLines_congr {url url' : Url.Reference}
    (same : ∀ name ∉ unsigned, valuesUnder name lines' = valuesUnder name lines)
    (host : valuesUnder "host" lines = [] → hostValue? url' = hostValue? url) :
    (∃ problem, signedLines url lines = .error problem ∧ signedLines url' lines' = .error problem) ∨
      ∃ signed signed', signedLines url lines = .ok signed ∧
        signedLines url' lines' = .ok signed' ∧ SameValues signed signed' := by
  have agree := sameValues_lowered same
  by_cases hostless : valuesUnder "host" lines = []
  · have hostless' : valuesUnder "host" lines' = [] := (same "host" (by decide)).trans hostless
    rw [signedLines_of_hostless url hostless, signedLines_of_hostless url' hostless', host hostless]
    split
    · next problem _ => exact .inl ⟨problem, rfl, rfl⟩
    · exact .inl ⟨.noHost, rfl, rfl⟩
    · next shown _ =>
        exact .inr ⟨_, _, rfl, rfl, SameValues.append agree [("host", shown)]⟩
  · have hosted' : valuesUnder "host" lines' ≠ [] := by rwa [same "host" (by decide)]
    exact .inr ⟨_, _, signedLines_of_host url hostless, signedLines_of_host url' hosted', agree⟩

theorem valuesUnder_append (name : String) (lines more : List (String × String)) :
    valuesUnder name (lines ++ more) = valuesUnder name lines ++ valuesUnder name more := by
  rw [valuesUnder, List.filter_append, List.map_append, valuesUnder, valuesUnder]

theorem ReadsAlike.sourceLines (alike : ReadsAlike request other) (stamp : String) :
    ∀ name ∉ unsigned, valuesUnder name (sourceLines other stamp) =
      valuesUnder name (sourceLines request stamp) := by
  intro name signed
  by_cases small : Text.lower name = name
  · rw [V4.sourceLines, V4.sourceLines, alike.payload, valuesUnder_append, valuesUnder_append,
      valuesUnder_covered, valuesUnder_covered]
    split
    · rfl
    · next unwritten =>
        have apart : ¬ (name = payloadHeader ∨ name = dateHeader ∨ name = "authorization") := by
          simpa [SignatureVersion.written, written] using unwritten
        have signs : SignatureVersion.v4.signs name = true := by
          rw [SignatureVersion.signs, small]
          simp only [List.contains_append, Bool.not_or, Bool.and_eq_true]
          simpa [signed] using fun same => apart (.inr same)
        rw [alike.headers name signs fun same => apart (.inl same)]
  · rw [valuesUnder_of_not_small small, valuesUnder_of_not_small small]

theorem draft?_of_readsAlike (clock : Calendar.Reading) (alike : ReadsAlike request other)
    (canonical : request.url.IsCanonical) (canonical' : other.url.IsCanonical) :
    draft? clock other = draft? clock request := by
  have query : canonicalQuery other.url.writtenQuery = canonicalQuery request.url.writtenQuery := by
    rw [Url.writtenQuery, Url.writtenQuery, (Url.path_query_ofChars_text canonical').2,
      (Url.path_query_ofChars_text canonical).2]
    exact canonicalQuery_congr alike.parameters
  rw [draft?, draft?]
  cases clock.instant? with
  | none => rfl
  | some instant =>
      have host : valuesUnder "host" (sourceLines request instant.stamp) = [] →
          valuesUnder "host" request.headers.merged = [] := by
        intro hostless
        rw [sourceLines, valuesUnder_append, List.append_eq_nil_iff, valuesUnder_covered] at hostless
        exact hostless.1
      dsimp only
      rcases signedLines_congr (alike.sourceLines instant.stamp) (fun none => alike.host (host none))
        with ⟨problem, refused, refused'⟩ | ⟨signed, signed', taken, taken', same⟩
      · rw [refused, refused']
      · have canonicalSame : canonicalHeaders signed' = canonicalHeaders signed := by
          rw [canonicalHeaders_eq, canonicalHeaders_eq, listed_congr Text.collapseBlanks same]
        have names := signedHeaders_congr same
        have path : (Url.Reference.ofChars other.url.text.toList).path =
            (Url.Reference.ofChars request.url.text.toList).path := alike.path
        have parameters : canonicalQuery (Url.Reference.ofChars other.url.text.toList).query =
            canonicalQuery (Url.Reference.ofChars request.url.text.toList).query := query
        rw [taken, taken']
        dsimp only
        rw [names, canonicalRequest, canonicalRequest, alike.method, path, parameters,
          canonicalSame, names, alike.payload]

end

end V4

/-! ## Requests that share a signature -/

open SignatureVersion (signedUrl?)

/-- What two requests that are signed on their own have in common. Whether the second one is signed
depends besides on the URL whose text is signed, and on a header that may have to be plain. -/
structure SharesSignature (signer : Signer) (clock : Calendar.Reading) (region region' : String)
    (request other : Request) : Prop where
  signed : (signer.sign clock region request).problem = none →
    ((signer.sign clock region' other).problem = none ↔
      (∃ signing, signer.version.signedUrl? other.url = .ok signing) ∧
        ∀ value, (signer.sign clock region request).request.headers.get? "authorization" =
          some value → other.Admits value)
  date : (signer.sign clock region request).problem = none →
    (signer.sign clock region' other).problem = none →
      (signer.sign clock region' other).request.headers.get? signer.version.dateName =
        (signer.sign clock region request).request.headers.get? signer.version.dateName
  authorization : (signer.sign clock region request).problem = none →
    (signer.sign clock region' other).problem = none →
      (signer.sign clock region' other).request.headers.get? "authorization" =
        (signer.sign clock region request).request.headers.get? "authorization"

section

variable {signer : Signer} {clock : Calendar.Reading} {region region' : String}
  {request other : Request} {draft : Draft} {octets : Bytes}

theorem Signer.authorize_congr (regions : signer.version = .v4 → region' = region)
    (octets : Bytes) (draft : Draft) :
    signer.authorize octets region' draft = signer.authorize octets region draft := by
  cases version : signer.version with
  | v4 => rw [regions version]
  | v2 => simp only [authorize, version]

theorem get?_sign (drafted : draft? signer.version clock request = .ok draft)
    (encoded : signer.octets? = .ok octets)
    (admits : request.Admits (signer.authorize octets region draft)) :
    (signer.sign clock region request).request.headers.get? signer.version.dateName =
        some draft.date ∧
      (signer.sign clock region request).request.headers.get? "authorization" =
        some (signer.authorize octets region draft) := by
  rw [Signer.sign_of_draft drafted encoded admits]
  exact Signer.get?_sealed draft

theorem sharesSignature_of_draft (regions : signer.version = .v4 → region' = region)
    (same : (∃ signing, signer.version.signedUrl? request.url = .ok signing) →
      (∃ signing, signer.version.signedUrl? other.url = .ok signing) →
        draft? signer.version clock other = draft? signer.version clock request) :
    SharesSignature signer clock region region' request other := by
  have shared (returned : (signer.sign clock region request).problem = none)
      (made' : ∃ signing, signer.version.signedUrl? other.url = .ok signing) :
      ∃ draft octets, draft? signer.version clock request = .ok draft ∧
        draft? signer.version clock other = .ok draft ∧ signer.octets? = .ok octets ∧
          request.Admits (signer.authorize octets region draft) := by
    obtain ⟨draft, octets, drafted, encoded, admits⟩ := Signer.draft_of_sign returned
    exact ⟨draft, octets, drafted, (same (exists_signedUrl? drafted) made').trans drafted, encoded,
      admits⟩
  have made_of_signed (returned' : (signer.sign clock region' other).problem = none) :
      ∃ signing, signer.version.signedUrl? other.url = .ok signing := by
    obtain ⟨_, _, drafted', _⟩ := Signer.draft_of_sign returned'
    exact exists_signedUrl? drafted'
  have both (returned : (signer.sign clock region request).problem = none)
      (returned' : (signer.sign clock region' other).problem = none) :
      ∃ draft octets, draft? signer.version clock request = .ok draft ∧
        draft? signer.version clock other = .ok draft ∧ signer.octets? = .ok octets ∧
          request.Admits (signer.authorize octets region draft) ∧
            other.Admits (signer.authorize octets region draft) := by
    obtain ⟨draft, octets, drafted, drafted', encoded, admits⟩ :=
      shared returned (made_of_signed returned')
    obtain ⟨draft', _, again, encoded', admits'⟩ := Signer.draft_of_sign returned'
    cases Except.ok.inj (again.symm.trans drafted')
    cases Except.ok.inj (encoded'.symm.trans encoded)
    rw [Signer.authorize_congr regions] at admits'
    exact ⟨draft, octets, drafted, drafted', encoded, admits, admits'⟩
  constructor
  case signed =>
    intro returned
    constructor
    · intro returned'
      obtain ⟨draft, octets, drafted, _, encoded, admits, admits'⟩ := both returned returned'
      refine ⟨made_of_signed returned', fun value written => ?_⟩
      rw [(get?_sign drafted encoded admits).2] at written
      cases written
      exact admits'
    · rintro ⟨made', plain⟩
      obtain ⟨draft, octets, drafted, drafted', encoded, admits⟩ := shared returned made'
      have admits' := plain _ (get?_sign drafted encoded admits).2
      rw [← Signer.authorize_congr regions octets draft] at admits'
      rw [Signer.sign_of_draft drafted' encoded admits']
      rfl
  case date =>
    intro returned returned'
    obtain ⟨draft, octets, drafted, drafted', encoded, admits, admits'⟩ := both returned returned'
    rw [← Signer.authorize_congr regions octets draft] at admits'
    rw [(get?_sign drafted encoded admits).1, (get?_sign drafted' encoded admits').1]
  case authorization =>
    intro returned returned'
    obtain ⟨draft, octets, drafted, drafted', encoded, admits, admits'⟩ := both returned returned'
    rw [← Signer.authorize_congr regions octets draft] at admits'
    rw [(get?_sign drafted encoded admits).2, (get?_sign drafted' encoded admits').2,
      Signer.authorize_congr regions]

end

end Signing

/-- Two requests that agree on what a version reads. -/
def SignatureVersion.ReadsAlike : SignatureVersion → Request → Request → Prop
  | v4 => Signing.V4.ReadsAlike
  | v2 => Signing.V2.ReadsAlike

namespace Signing

/-- Requests that a version reads alike get the same date and the same authorization, in the older
version whatever region they are signed for. -/
theorem sharesSignature_of_readsAlike {signer : Signer} {request other : Request}
    (clock : Calendar.Reading) {region region' : String}
    (regions : signer.version = .v4 → region' = region) (arises : request.url.Arises)
    (arises' : other.url.Arises) (alike : signer.version.ReadsAlike request other) :
    SharesSignature signer clock region region' request other := by
  refine sharesSignature_of_draft regions ?_
  rintro ⟨signing, made⟩ ⟨signing', made'⟩
  cases version : signer.version with
  | v4 =>
      rw [version] at alike
      exact V4.draft?_of_readsAlike clock alike arises.isCanonical arises'.isCanonical
  | v2 =>
      rw [version] at alike made made'
      exact V2.draft?_of_readsAlike clock alike arises.isCanonical arises'.isCanonical made made'

end Signing

namespace Sample

def visit (url : Url) (agent : String) : Request :=
  unsignedPayload url [("Host", "s3.amazonaws.com"), ("User-Agent", agent)]

def mirrorUrl : Url := ⟨"http", "", "mirror.example", some 8080, "/photos", some "acl=", none⟩

/-- A request to a port of no host. -/
def portRequest (port : Nat) : Request :=
  unsignedPayload ⟨"http", "", "", some port, "/photos", none, none⟩ []

def portSigner : Signing.Signer := ⟨.v4, keys⟩

/-- What such a request is signed by at noon. -/
def portDraft (port : Nat) : Signing.Draft :=
  ⟨"20261019T120000Z", "host;x-amz-content-sha256;x-amz-date",
    "\n".intercalate ["GET", "/photos", "", "host:None:" ++ toString port,
      "x-amz-content-sha256:UNSIGNED-PAYLOAD", "x-amz-date:20261019T120000Z", "",
      "host;x-amz-content-sha256;x-amz-date", "UNSIGNED-PAYLOAD"]⟩

end Sample

namespace Signing

open Sample

theorem sharesSignature_visits :
    ((SignatureVersion.v4 = .v4 → "us-east-1" = "us-east-1") ∧
      (partUrl "acl&prefix=a").Arises ∧ (partUrl "prefix=a&acl").Arises ∧
      SignatureVersion.v4.ReadsAlike (visit (partUrl "acl&prefix=a") "curl")
        (visit (partUrl "prefix=a&acl") "bucketloc") ∧
      (V4.sign keys noon "us-east-1" (visit (partUrl "acl&prefix=a") "curl")).problem = none ∧
      SharesSignature ⟨.v4, keys⟩ noon "us-east-1" "us-east-1"
        (visit (partUrl "acl&prefix=a") "curl") (visit (partUrl "prefix=a&acl") "bucketloc")) ∧
    ((SignatureVersion.v2 = .v4 → "eu-west-1" = "us-east-1") ∧
      (partUrl "acl&prefix=a").Arises ∧ mirrorUrl.Arises ∧
      SignatureVersion.v2.ReadsAlike (visit (partUrl "acl&prefix=a") "curl")
        (visit mirrorUrl "bucketloc") ∧
      (V2.sign keys noon (visit (partUrl "acl&prefix=a") "curl")).problem = none ∧
      SharesSignature ⟨.v2, keys⟩ noon "us-east-1" "eu-west-1"
        (visit (partUrl "acl&prefix=a") "curl") (visit mirrorUrl "bucketloc")) := by
  have read : Url.parse "https://s3.amazonaws.com/photos?acl&prefix=a" =
      .ok (partUrl "acl&prefix=a") := toOption_eq_some.mp (by decide +kernel)
  have readSwapped : Url.parse "https://s3.amazonaws.com/photos?prefix=a&acl" =
      .ok (partUrl "prefix=a&acl") := toOption_eq_some.mp (by decide +kernel)
  have readMirror : Url.parse "http://mirror.example:8080/photos?acl=" = .ok mirrorUrl :=
    toOption_eq_some.mp (by decide +kernel)
  have swapped : V4.ReadsAlike (visit (partUrl "acl&prefix=a") "curl")
      (visit (partUrl "prefix=a&acl") "bucketloc") := {
    method := rfl
    path := by decide +kernel
    parameters := by decide +kernel
    payload := by decide +kernel
    headers := fun _ signs _ => V4.valuesUnder_eq_of_filter (by decide +kernel) signs
    host := fun hostless => absurd hostless (by decide +kernel) }
  have mirrored : V2.ReadsAlike (visit (partUrl "acl&prefix=a") "curl")
      (visit mirrorUrl "bucketloc") := {
    method := rfl
    path := by decide +kernel
    parts := by decide +kernel
    headers := fun _ signs => V4.valuesUnder_eq_of_filter (by decide +kernel) signs
    kept := ⟨Url.keepsAuthority_of_host (by decide), Url.keepsAuthority_of_host (by decide)⟩ }
  have taken : V4.signedLines (.ofChars (visit (partUrl "acl&prefix=a") "curl").url.text.toList)
      (V4.sources (visit (partUrl "acl&prefix=a") "curl") (visit (partUrl "acl&prefix=a") "curl")
        Sample.instant.stamp) =
      .ok [("host", "s3.amazonaws.com"), ("x-amz-date", "20261019T120000Z"),
        ("x-amz-content-sha256", "UNSIGNED-PAYLOAD")] := toOption_eq_some.mp (by decide +kernel)
  have returned := (V4.of?_sign_noon ["host", "x-amz-content-sha256", "x-amz-date"] rfl taken
    (by decide +kernel) (by decide) (by decide +kernel) (by decide +kernel)).1
  have newer : (⟨.v4, keys⟩ : Signer).version = .v4 → "us-east-1" = "us-east-1" := fun _ => rfl
  have older : (⟨.v2, keys⟩ : Signer).version = .v4 → "eu-west-1" = "us-east-1" :=
    fun other => by cases other
  refine ⟨⟨newer, .read read, .read readSwapped, swapped, returned, ?_⟩,
    ⟨older, .read read, .read readMirror, mirrored, by decide +kernel, ?_⟩⟩
  · exact sharesSignature_of_readsAlike noon newer (.read read) (.read readSwapped) swapped
  · exact sharesSignature_of_readsAlike noon older (.read read) (.read readMirror) mirrored

theorem draft?_portRequest {port : Nat} (among : port ∈ [8080, 8081]) :
    draft? .v4 noon (portRequest port) = .ok (portDraft port) := by
  have time : noon.instant? = some Sample.instant := by decide +kernel
  have taken : V4.signedLines (.ofChars (portRequest port).url.text.toList)
      (V4.sourceLines (portRequest port) Sample.instant.stamp) =
        .ok [("x-amz-date", "20261019T120000Z"), ("x-amz-content-sha256", "UNSIGNED-PAYLOAD"),
          ("host", "None:" ++ toString port)] := by
    apply toOption_eq_some.mp
    revert port
    decide +kernel
  let signed := [("x-amz-date", "20261019T120000Z"), ("x-amz-content-sha256", "UNSIGNED-PAYLOAD"),
    ("host", "None:" ++ toString port)]
  have perm : ["x-amz-date", "x-amz-content-sha256", "host"].Perm
      ["host", "x-amz-content-sha256", "x-amz-date"] := by decide
  have sorted : V4.sortedNames (signed.map (·.1)) =
      ["host", "x-amz-content-sha256", "x-amz-date"] :=
    V4.sortedNames_eq (fun _ => perm.mem_iff) (by decide)
  have listed : (signed.map fun line => Text.trim (Text.lower line.1)) =
      ["x-amz-date", "x-amz-content-sha256", "host"] := by
    simp only [signed, List.map_cons, List.map_nil]
    decide +kernel
  have names : V4.signedHeaders signed = ";".intercalate
      ["host", "x-amz-content-sha256", "x-amz-date"] :=
    V4.signedHeaders_eq _ (listed ▸ perm) (by decide)
  rw [draft?, V4.draft?, time]
  dsimp only
  rw [taken]
  dsimp only
  rw [V4.canonicalRequest, V4.canonicalHeaders, sorted, names]
  refine congrArg Except.ok ?_
  clear taken sorted listed names
  revert port
  decide +kernel

theorem admits_portRequest (port : Nat) (octets : Bytes) :
    (portRequest port).Admits (portSigner.authorize octets "us-east-1" (portDraft port)) := by
  apply Request.admits_of_ascii
  have day : Text.isAscii (V4.scope "20261019T120000Z" "us-east-1").toList = true := by
    decide +kernel
  have named : Text.isAscii "host;x-amz-content-sha256;x-amz-date".toList = true := by
    decide +kernel
  exact V4.isAscii_authorization (by decide) day named (V4.isAscii_signature _ _ _ _)

theorem signingKey_portSigner :
    V4.signingKey (Utf8.encode "AWS4SECRET") "20261019T120000Z" "us-east-1" =
      [134, 140, 245, 170, 89, 242, 33, 248, 205, 228, 38, 165, 75, 163, 29, 233, 125, 161, 205,
        215, 188, 35, 132, 163, 5, 227, 120, 69, 96, 219, 78, 9] := by
  decide +kernel

theorem signature_portDraft_ne :
    V4.signature (Utf8.encode "AWS4SECRET") "20261019T120000Z" "us-east-1" (portDraft 8081).text ≠
      V4.signature (Utf8.encode "AWS4SECRET") "20261019T120000Z" "us-east-1"
        (portDraft 8080).text := by
  rw [V4.signature, V4.signature, signingKey_portSigner]
  decide +kernel

/-- Without a host header the newer version signs the port of the URL, so two requests with the
same headers get different signatures. -/
theorem ports_signed_apart :
    (portRequest 8081).method = (portRequest 8080).method ∧
      (portRequest 8081).url.writtenPath = (portRequest 8080).url.writtenPath ∧
      (portRequest 8081).url.parameters = (portRequest 8080).url.parameters ∧
      (portRequest 8081).headers = (portRequest 8080).headers ∧
      (portRequest 8081).body = (portRequest 8080).body ∧
      (portSigner.sign noon "us-east-1" (portRequest 8080)).problem = none ∧
      (portSigner.sign noon "us-east-1" (portRequest 8081)).problem = none ∧
      (portSigner.sign noon "us-east-1" (portRequest 8081)).request.headers.get?
          "authorization" ≠
        (portSigner.sign noon "us-east-1" (portRequest 8080)).request.headers.get?
          "authorization" := by
  have drafted (port : Nat) (among : port ∈ [8080, 8081]) :
      draft? portSigner.version noon (portRequest port) = .ok (portDraft port) :=
    draft?_portRequest among
  have encoded : portSigner.octets? = .ok (Utf8.encode "AWS4SECRET") := rfl
  have signed := Signer.sign_of_draft (drafted 8080 (by decide)) encoded (admits_portRequest _ _)
  have signed' := Signer.sign_of_draft (drafted 8081 (by decide)) encoded (admits_portRequest _ _)
  refine ⟨rfl, by decide +kernel, rfl, rfl, rfl, ?_, ?_, ?_⟩
  · rw [signed]
    rfl
  · rw [signed']
    rfl
  · rw [signed, signed', Outcome.done, Outcome.done, (Signer.get?_sealed _).2,
      (Signer.get?_sealed _).2]
    intro same
    have texts := (String.append_right_inj _).mp (Option.some.inj same)
    exact signature_portDraft_ne texts

end Signing

end BucketRegion
