import BucketRegion.Proofs.Client.Run
import BucketRegion.Proofs.Signing.Authorization
import BucketRegion.Proofs.Signing.Headers

/-!
# Verifying signatures

A service that has the secret key computes the signature of a request again, from nothing but the
request as it arrives: its method, the text of its URL, the headers that the authorization names
with the values that they have, and the region that the authorization is good for. It comes to the
signature that the authorization ends with, although signing works on a copy of the headers.

That holds where the request names its host, and where each name of a header can stand in a list of
names as it is.
-/

set_option autoImplicit false

namespace BucketRegion.Signing.V4

open Http (Request Headers)

/-! ## Names in order -/

section

variable {name : String} {names : List String}

theorem eraseDups_sublist (xs : List String) : xs.eraseDups.Sublist xs := by
  match xs with
  | [] => simp
  | x :: xs =>
      have shorter := List.length_filter_le (fun y => !y == x) xs
      rw [List.eraseDups_cons]
      exact ((eraseDups_sublist _).trans List.filter_sublist).cons_cons x
termination_by xs.length
decreasing_by simp only [List.length_cons]; omega

theorem nodup_eraseDups (xs : List String) : xs.eraseDups.Nodup := by
  match xs with
  | [] => simp
  | x :: xs =>
      have shorter := List.length_filter_le (fun y => !y == x) xs
      rw [List.eraseDups_cons]
      refine List.nodup_cons.mpr ⟨?_, nodup_eraseDups _⟩
      simp
termination_by xs.length
decreasing_by simp only [List.length_cons]; omega

@[simp] theorem mem_sortedNames : name ∈ sortedNames names ↔ name ∈ names := by
  rw [sortedNames, List.mem_eraseDups, List.mem_mergeSort]

theorem ascending_sortedNames (names : List String) :
    (sortedNames names).Pairwise (· < ·) := by
  have sorted : (names.mergeSort fun a b => a ≤ b).Pairwise fun a b => decide (a ≤ b) = true := by
    apply List.pairwise_mergeSort
    · intro a b c first second
      simp only [decide_eq_true_eq] at *
      exact String.le_trans first second
    · intro a b
      simpa using String.le_total a b
  have within := sorted.sublist (eraseDups_sublist _)
  refine (within.and (nodup_eraseDups _)).imp fun {a b} ⟨below, different⟩ => ?_
  by_contra above
  exact different (String.le_antisymm (of_decide_eq_true below) (String.not_lt.mp above))

/-- The order and the members determine the list. -/
theorem sortedNames_eq {target : List String} (members : ∀ name, name ∈ names ↔ name ∈ target)
    (ascending : target.Pairwise (· < ·)) : sortedNames names = target := by
  have sorted := ascending_sortedNames names
  have distinct : ∀ {xs : List String}, xs.Pairwise (· < ·) → xs.Nodup := fun sorted =>
    sorted.imp ne_of_lt
  have perm : (sortedNames names).Perm target :=
    (List.perm_ext_iff_of_nodup (distinct sorted) (distinct ascending)).mpr fun name =>
      mem_sortedNames.trans (members name)
  exact perm.eq_of_pairwise (fun a b _ _ below above => absurd below above.asymm) sorted ascending

end

/-! ## Values of a header -/

/-- The values on the lines of a name, whatever letters it is written in. -/
def valuesUnder (name : String) (lines : List (String × String)) : List String :=
  (lines.filter fun line => Text.lower line.1 == name).map (·.2)

/-- Lines as requests hold them: their names have no capital letters of ASCII. -/
def Named (lines : List (String × String)) : Prop :=
  ∀ line ∈ lines, Text.asciiLower line.1 = line.1

/-- A name in small letters that no other name has as its small form. -/
structure IsPlain (name : String) : Prop where
  fixed : Text.asciiLower name = name
  letters : ∀ c ∈ name.toList, c.toNat < 128 ∧ c ≠ 'k'

section

variable {name other value : String} {lines : List (String × String)} {request : Request}

theorem named_ofLines (lines : List (String × String)) : Named (Headers.ofLines lines).lines := by
  intro line member
  obtain ⟨source, _, rfl⟩ := List.mem_map.mp member
  have twice : Char.toLower ∘ Char.toLower = Char.toLower :=
    funext Char.toLower_toLower_eq_toLower
  simp [Text.asciiLower, twice]

theorem isPlain_authorization : IsPlain "authorization" := ⟨by decide, by simp⟩

theorem isPlain_dateHeader : IsPlain dateHeader := ⟨by decide, by simp [dateHeader]⟩

theorem isPlain_payloadHeader : IsPlain payloadHeader := ⟨by decide, by simp [payloadHeader]⟩

theorem IsPlain.lower_eq (plain : IsPlain name) : Text.lower name = name :=
  (Text.lower_eq_iff plain.fixed plain.letters).mpr rfl

theorem IsPlain.lower_eq_iff (plain : IsPlain name) (named : Named lines)
    {line : String × String} (member : line ∈ lines) : Text.lower line.1 = name ↔ line.1 = name :=
  Text.lower_eq_iff (named line member) plain.letters

theorem valuesUnder_ne_nil :
    valuesUnder name lines ≠ [] ↔ ∃ line ∈ lines, Text.lower line.1 = name := by
  simp [valuesUnder, List.filter_eq_nil_iff]

theorem valuesUnder_of_filter (plain : IsPlain name) (named : Named lines)
    (single : lines.filter (fun line => line.1 == name) = [(name, value)]) :
    valuesUnder name lines = [value] := by
  have same : lines.filter (fun line => Text.lower line.1 == name) =
      lines.filter fun line => line.1 == name := by
    refine List.filter_congr fun line member => ?_
    rw [Bool.eq_iff_iff, beq_iff_eq, beq_iff_eq]
    exact plain.lower_eq_iff named member
  rw [valuesUnder, same, single]
  rfl

theorem named_putLine (plain : IsPlain name) (named : Named lines) (value : String) :
    Named (Headers.putLine name value lines) := by
  intro line member
  rcases Headers.mem_names_putLine value lines (List.mem_map_of_mem member) with same | earlier
  · rw [same, plain.fixed]
  · obtain ⟨old, there, same⟩ := List.mem_map.mp earlier
    rw [← same, named old there]

/-- Setting a header changes the values of no other name. -/
theorem valuesUnder_putLine (plain : IsPlain name) (named : Named lines) (value : String) :
    valuesUnder other (Headers.putLine name value lines) =
      if other = name then [value] else valuesUnder other lines := by
  split
  · next same =>
      rw [same]
      exact valuesUnder_of_filter plain (named_putLine plain named value)
        (Headers.filter_putLine name value lines)
  · next different =>
      have dropped : (Text.lower name == other) = false := by
        rw [plain.lower_eq]
        exact beq_eq_false_iff_ne.mpr (Ne.symm different)
      rw [valuesUnder, valuesUnder,
        Headers.filter_putLine_of_other (fun held => Text.lower held == other) dropped]

theorem valuesUnder_replaceLine (plain : IsPlain name) (value : String)
    (lines : List (String × String)) :
    valuesUnder other (replaceLine name value lines) =
      if other = name then [value] else valuesUnder other lines := by
  rw [valuesUnder, replaceLine, List.filter_append, List.filter_filter, List.map_append]
  by_cases same : other = name
  · simp [same, plain.lower_eq]
  · have kept : lines.filter (fun line => Text.lower line.1 == other &&
        Text.lower line.1 != name) = lines.filter fun line => Text.lower line.1 == other := by
      refine List.filter_congr fun line _ => ?_
      by_cases here : Text.lower line.1 = other
      · simp [here, same]
      · simp [here]
    simp [kept, same, Ne.symm same, plain.lower_eq, valuesUnder]

theorem valuesUnder_signable (unique : (request.headers.lines.map (·.1)).Nodup) :
    valuesUnder other (signable request) =
      if other = "authorization" then [] else valuesUnder other request.headers.lines := by
  rw [signable, Headers.merged_of_nodup unique, valuesUnder, List.filter_filter]
  split
  · next same =>
      rw [List.map_eq_nil_iff, List.filter_eq_nil_iff]
      simp [same]
  · next different =>
      rw [valuesUnder, List.filter_congr fun line _ => ?_]
      by_cases here : Text.lower line.1 = other
      · simp [here, different]
      · simp [here]

end

/-! ## What a signature is over -/

/-- The lines that take part in a signature, under names in small letters. -/
def lowered (lines : List (String × String)) : List (String × String) :=
  (lines.map fun (name, value) => (Text.lower name, value)).filter fun line =>
    !unsigned.contains line.1

/-- A name that stands in a list of names as it is. -/
structure IsListable (name : String) : Prop where
  bare : Text.trim (Text.lower name) = Text.lower name
  undivided : ';' ∉ (Text.lower name).toList

instance (name : String) : Decidable (IsListable name) :=
  decidable_of_iff
    (Text.trim (Text.lower name) = Text.lower name ∧ ';' ∉ (Text.lower name).toList)
    ⟨fun both => ⟨both.1, both.2⟩, fun listable => ⟨listable.bare, listable.undivided⟩⟩

section

variable {name : String} {lines : List (String × String)}

theorem filter_lowered (signed : name ∉ unsigned) :
    ((lowered lines).filter fun line => line.1 == name).map (·.2) = valuesUnder name lines := by
  rw [lowered, List.filter_filter, List.filter_map, List.map_map, valuesUnder]
  refine congrArg (List.map _) (List.filter_congr fun line _ => ?_)
  by_cases here : Text.lower line.1 = name
  · simp [here, signed]
  · simp [here]

theorem mem_names_lowered :
    name ∈ (lowered lines).map (·.1) ↔ name ∉ unsigned ∧ valuesUnder name lines ≠ [] := by
  rw [valuesUnder_ne_nil]
  constructor
  · intro member
    obtain ⟨line, among, rfl⟩ := List.mem_map.mp member
    obtain ⟨among, signed⟩ := List.mem_filter.mp among
    obtain ⟨source, there, rfl⟩ := List.mem_map.mp among
    exact ⟨by simpa using signed, source, there, rfl⟩
  · rintro ⟨signed, line, there, rfl⟩
    refine List.mem_map.mpr ⟨(Text.lower line.1, line.2), List.mem_filter.mpr ⟨?_, ?_⟩, rfl⟩
    · exact List.mem_map.mpr ⟨line, there, rfl⟩
    · simpa using signed

theorem signedLines_of_host (url : Url.Reference) (hosted : valuesUnder "host" lines ≠ []) :
    signedLines url lines = .ok (lowered lines) := by
  have member : "host" ∈ (lowered lines).map (·.1) :=
    mem_names_lowered.mpr ⟨by decide, hosted⟩
  have found : (lowered lines).any (fun line => line.1 == "host") = true := by
    obtain ⟨line, among, same⟩ := List.mem_map.mp member
    exact List.any_eq_true.mpr ⟨line, among, by simpa using same⟩
  unfold signedLines
  exact if_pos found

/-- Names in small letters are in small letters, so a list of them is a list of the names that the
canonical lines begin with. -/
theorem signedHeaders_lowered (listable : ∀ line ∈ lines, IsListable line.1) :
    signedHeaders (lowered lines) =
      ";".intercalate (sortedNames ((lowered lines).map (·.1))) := by
  rw [signedHeaders, List.map_congr_left fun line member => ?_]
  obtain ⟨among, _⟩ := List.mem_filter.mp member
  obtain ⟨source, there, rfl⟩ := List.mem_map.mp among
  simp only [Text.lower_lower]
  exact (listable source there).bare

theorem signedHeaders_eq (target : List String)
    (perm : (lines.map fun line => Text.trim (Text.lower line.1)).Perm target)
    (ascending : target.Pairwise (· < ·)) : signedHeaders lines = ";".intercalate target := by
  rw [signedHeaders, sortedNames_eq (fun _ => perm.mem_iff) ascending]

/-- Names that a signature covers have neither the separator of names nor a capital letter. -/
theorem letters_of_mem_lowered (listable : ∀ line ∈ lines, IsListable line.1)
    (member : name ∈ (lowered lines).map (·.1)) :
    ';' ∉ name.toList ∧ 'S' ∉ name.toList := by
  obtain ⟨_, present⟩ := mem_names_lowered.mp member
  obtain ⟨line, there, rfl⟩ := valuesUnder_ne_nil.mp present
  refine ⟨(listable line there).undivided, fun capital => ?_⟩
  have small := Text.isSmall_of_mem_lower capital
  exact absurd small.2 (by decide)

theorem ne_of_mem_lowered {other : String} (absent : valuesUnder other lines = [])
    (member : name ∈ (lowered lines).map (·.1)) : name ≠ other := by
  rintro rfl
  exact (mem_names_lowered.mp member).2 absent

end

theorem capital_not_mem_signature (root : Bytes) (stamp region canonical : String) :
    'S' ∉ (signature root stamp region canonical).toList := by
  intro member
  rw [signature, String.toList_ofList] at member
  exact absurd (Text.not_isUpper_of_mem_hexOctets member) (by decide)

/-! ## The verifier -/

/-- The canonical request of a request as it stands, over the headers of some names. -/
def canonicalOver (request : Request) (names : List String) (payloadHash : String) : String :=
  let url := Url.Reference.ofChars request.url.text.toList
  let lines := names.map fun name =>
    name ++ ":" ++
      ",".intercalate ((valuesUnder name request.headers.lines).map Text.collapseBlanks)
  "\n".intercalate
    [Text.upper request.method, String.ofList url.path, canonicalQuery url.query,
      "\n".intercalate lines ++ "\n", ";".intercalate names, payloadHash]

namespace Authorization

def of? (accessKey : String) (request : Request) : Option Authorization := do
  let stamp ← request.headers.get? dateHeader
  let value ← request.headers.get? "authorization"
  read? accessKey stamp value

/-- The signature that a request has with a secret key, for the region and over the headers that
its authorization tells. -/
def recomputed? (secretKey : Text.Loose) (request : Request) (a : Authorization) :
    Option String := do
  let root ← (rootKey secretKey).toOption
  let stamp ← request.headers.get? dateHeader
  let hash ← request.headers.get? payloadHeader
  return V4.signature root stamp a.region (canonicalOver request a.names hash)

/-- The headers that an authorization names: all that the request has, under their names in small
letters and in order, but for the authorization itself and those that a hop may change. -/
structure Covers (a : Authorization) (request : Request) : Prop where
  ascending : a.names.Pairwise (· < ·)
  basic : ∀ name ∈ ["host", payloadHeader, dateHeader], name ∈ a.names
  others : ∀ line ∈ request.headers.lines, line.1 ≠ "authorization" →
    Text.lower line.1 ∉ unsigned → Text.lower line.1 ∈ a.names
  present : ∀ name ∈ a.names, ∃ line ∈ request.headers.lines, Text.lower line.1 = name
  never : ∀ name ∈ "authorization" :: unsigned, name ∉ a.names

end Authorization

/-- A request whose headers are written once each, among them the host, under names that can be
listed. -/
structure IsVerifiable (request : Request) : Prop where
  named : Named request.headers.lines
  unique : (request.headers.lines.map (·.1)).Nodup
  hosted : request.headers.contains "host" = true
  listable : ∀ line ∈ request.headers.lines, IsListable line.1

def written : List String := [payloadHeader, dateHeader, "authorization"]

/-- What a request is after signing: the same but for three headers. If it names its host, under
names that can be listed, it is verified too. -/
structure Verifies (credentials : Credentials) (clock : Calendar.Reading) (region : String)
    (request final : Request) : Prop where
  method : final.method = request.method
  url : final.url = request.url
  body : final.body = request.body
  others : final.headers.lines.filter (fun line => !written.contains line.1) =
    request.headers.lines.filter fun line => !written.contains line.1
  payload : final.headers.get? payloadHeader =
    some ((request.headers.get? payloadHeader).getD (Digest.Sha256.hexDigest request.body))
  date : ∃ instant, clock.instant? = some instant ∧
    final.headers.get? dateHeader = some instant.stamp
  verified : request.headers.contains "host" = true →
    (∀ line ∈ request.headers.lines, IsListable line.1) →
      ∃ a, Authorization.of? credentials.accessKey final = some a ∧ a.region = region ∧
        a.Covers final ∧ a.recomputed? credentials.secretKey final = some a.signature

/-! ## Signing that succeeds -/

/-- The lines that are signed, before their names are put in small letters. -/
def sources (request hashed : Request) (stamp : String) : List (String × String) :=
  replaceLine payloadHeader (payloadHash request) (replaceLine dateHeader stamp (signable hashed))

theorem isAscii_signature (root : Bytes) (stamp region canonical : String) :
    Text.isAscii (signature root stamp region canonical).toList = true := by
  rw [signature, String.toList_ofList]
  exact Text.isAscii_hexOctets _

theorem isAscii_authorization {credentials : Credentials} {region stamp names signature : String}
    (key : Text.isAscii credentials.accessKey.toList = true)
    (day : Text.isAscii (scope stamp region).toList = true)
    (named : Text.isAscii names.toList = true) (digits : Text.isAscii signature.toList = true) :
    Text.isAscii (authorization credentials region stamp names signature).toList = true := by
  rw [toList_authorization]
  simp only [String.toList_append, Text.isAscii_append, key, day, named, digits]
  decide

/-- A request that tells the digest of its payload is signed, if what goes into its authorization
is ASCII text and the secret key can be encoded. -/
theorem problem_sign {credentials : Credentials} {clock : Calendar.Reading} {region : String}
    {request : Request} {instant : Calendar.Instant} {signed : List (String × String)}
    {root : Bytes} (given : request.headers.contains payloadHeader = true)
    (time : clock.instant? = some instant)
    (lines : signedLines (.ofChars request.url.text.toList)
      (sources request request instant.stamp) = .ok signed)
    (encoded : rootKey credentials.secretKey = .ok root)
    (stamp : Text.isAscii instant.stamp.toList = true)
    (key : Text.isAscii credentials.accessKey.toList = true)
    (day : Text.isAscii (scope instant.stamp region).toList = true)
    (named : Text.isAscii (signedHeaders signed).toList = true) :
    (sign credentials clock region request).problem = none := by
  rw [sign_eq, if_pos given]
  simp only [signHashed, time]
  rw [sources] at lines
  rw [lines, encoded]
  refine Outcome.problem_setting stamp fun dated => Outcome.problem_setting ?_ fun _ => rfl
  exact isAscii_authorization key day named (isAscii_signature _ _ _ _)

/-! ## Signing and verifying -/

section

variable {credentials : Credentials} {clock : Calendar.Reading} {region : String}
  {request final hashed dated : Request} {instant : Calendar.Instant}
  {signed : List (String × String)} {root : Bytes}

/-- With the digest of its payload a request has that as the one value of its header, whether the
digest has been there before or not. -/
theorem lines_hashed (unique : (request.headers.lines.map (·.1)).Nodup)
    (hash : if request.headers.contains payloadHeader then hashed = request
      else request.set payloadHeader (payloadHash request) = .ok hashed) :
    hashed.method = request.method ∧ hashed.url = request.url ∧ hashed.body = request.body ∧
      hashed.headers.lines =
        Headers.putLine payloadHeader (payloadHash request) request.headers.lines := by
  split at hash
  · next given =>
      obtain ⟨⟨name, value⟩, there, same⟩ := List.any_eq_true.mp given
      rw [show name = payloadHeader from eq_of_beq same] at there
      have single := Headers.filter_eq_of_nodup unique there
      have kept : payloadHash request = value := by
        rw [payloadHash, Headers.get?_of_filter single]
        rfl
      rw [hash, kept, Headers.putLine_eq_self single]
      exact ⟨rfl, rfl, rfl, rfl⟩
  · exact Http.Request.eq_of_set hash

section

variable {name : String} (stamp : String) (verifiable : IsVerifiable request)
  (put : hashed.headers.lines =
    Headers.putLine payloadHeader (payloadHash request) request.headers.lines)

include verifiable put

theorem named_hashed : Named hashed.headers.lines := by
  rw [put]
  exact named_putLine isPlain_payloadHeader verifiable.named _

theorem nodup_hashed : (hashed.headers.lines.map (·.1)).Nodup := by
  rw [put]
  exact Headers.nodup_putLine verifiable.unique _

theorem valuesUnder_sources :
    valuesUnder name (sources request hashed stamp) =
      if name = payloadHeader then [payloadHash request]
      else if name = dateHeader then [stamp]
      else if name = "authorization" then []
      else valuesUnder name request.headers.lines := by
  rw [sources, valuesUnder_replaceLine isPlain_payloadHeader,
    valuesUnder_replaceLine isPlain_dateHeader,
    valuesUnder_signable (nodup_hashed verifiable put), put,
    valuesUnder_putLine isPlain_payloadHeader verifiable.named]
  by_cases digest : name = payloadHeader
  · rw [if_pos digest, if_pos digest]
  · simp only [if_neg digest]

theorem valuesUnder_basic (basic : name ∈ ["host", payloadHeader, dateHeader]) :
    valuesUnder name (sources request hashed stamp) ≠ [] := by
  rw [valuesUnder_sources stamp verifiable put]
  simp only [List.mem_cons, List.not_mem_nil, or_false] at basic
  rcases basic with rfl | rfl | rfl
  · obtain ⟨line, there, same⟩ := List.any_eq_true.mp verifiable.hosted
    have host : Text.lower line.1 = "host" := by
      rw [eq_of_beq same]
      exact IsPlain.lower_eq ⟨by decide, by simp⟩
    have present : valuesUnder "host" request.headers.lines ≠ [] :=
      valuesUnder_ne_nil.mpr ⟨line, there, host⟩
    simpa [payloadHeader, dateHeader] using present
  · simp
  · simp [payloadHeader, dateHeader]

theorem listable_sources : ∀ line ∈ sources request hashed stamp, IsListable line.1 := by
  have standard : IsListable payloadHeader ∧ IsListable dateHeader :=
    ⟨⟨by decide, by decide⟩, by decide, by decide⟩
  intro line member
  -- A line is that of the digest, that of the date, or one of the request.
  rcases List.mem_append.mp member with member | last
  · rcases List.mem_append.mp (List.mem_filter.mp member).1 with member | last
    · have there := (List.mem_filter.mp (List.mem_filter.mp member).1).1
      rw [Headers.merged_of_nodup (nodup_hashed verifiable put), put] at there
      rcases Headers.mem_names_putLine _ _ (List.mem_map_of_mem there) with same | earlier
      · rw [same]
        exact standard.1
      · obtain ⟨old, among, same⟩ := List.mem_map.mp earlier
        rw [← same]
        exact verifiable.listable old among
    · rw [List.mem_singleton.mp last]
      exact standard.2
  · rw [List.mem_singleton.mp last]
    exact standard.1

end

/-! ### The request that signing gives -/

section

variable {value stamp : String} (verifiable : IsVerifiable request)
  (put : hashed.headers.lines =
    Headers.putLine payloadHeader (payloadHash request) request.headers.lines)
  (signing : final.headers.lines =
    Headers.putLine "authorization" value
      (Headers.putLine dateHeader stamp hashed.headers.lines))

include signing

theorem get?_authorization_final : final.headers.get? "authorization" = some value := by
  apply Headers.get?_of_filter
  rw [signing, Headers.filter_putLine]

theorem get?_date_final : final.headers.get? dateHeader = some stamp := by
  apply Headers.get?_of_filter
  rw [signing, Headers.filter_putLine_of_other (fun name => name == dateHeader) (by decide),
    Headers.filter_putLine]

include put

theorem get?_payload_final : final.headers.get? payloadHeader = some (payloadHash request) := by
  apply Headers.get?_of_filter
  rw [signing, Headers.filter_putLine_of_other (fun name => name == payloadHeader) (by decide),
    Headers.filter_putLine_of_other (fun name => name == payloadHeader) (by decide), put,
    Headers.filter_putLine]

theorem others_final :
    final.headers.lines.filter (fun line => !written.contains line.1) =
      request.headers.lines.filter fun line => !written.contains line.1 := by
  rw [signing, Headers.filter_putLine_of_other (fun name => !written.contains name) (by decide),
    Headers.filter_putLine_of_other (fun name => !written.contains name) (by decide), put,
    Headers.filter_putLine_of_other (fun name => !written.contains name) (by decide)]

include verifiable

theorem named_final : Named final.headers.lines := by
  rw [signing]
  have named := named_hashed verifiable put
  exact named_putLine isPlain_authorization (named_putLine isPlain_dateHeader named _) _

/-- The values of the request that signing gives are the values that have been signed. -/
theorem valuesUnder_final {name : String} (other : name ≠ "authorization") :
    valuesUnder name final.headers.lines = valuesUnder name (sources request hashed stamp) := by
  have named := named_hashed verifiable put
  rw [signing, valuesUnder_sources stamp verifiable put,
    valuesUnder_putLine isPlain_authorization (named_putLine isPlain_dateHeader named stamp),
    if_neg other, valuesUnder_putLine isPlain_dateHeader named, put,
    valuesUnder_putLine isPlain_payloadHeader verifiable.named]
  have apart : payloadHeader ≠ dateHeader := by decide
  by_cases digest : name = payloadHeader
  · rw [if_neg (digest ▸ apart), if_pos digest, if_pos digest]
  · simp only [if_neg digest, if_neg other]

end

theorem canonicalOver_eq {lines : List (String × String)} {hash : String}
    (method : final.method = request.method) (url : final.url = request.url)
    (listable : ∀ line ∈ lines, IsListable line.1)
    (values : ∀ name ∈ (lowered lines).map (·.1),
      valuesUnder name final.headers.lines = valuesUnder name lines) :
    canonicalOver final (sortedNames ((lowered lines).map (·.1))) hash =
      canonicalRequest request.method (.ofChars request.url.text.toList) (lowered lines) hash := by
  have headers : ((sortedNames ((lowered lines).map (·.1))).map fun name => name ++ ":" ++
      ",".intercalate ((valuesUnder name final.headers.lines).map Text.collapseBlanks)) =
      (sortedNames ((lowered lines).map (·.1))).map fun name => name ++ ":" ++ ",".intercalate
        (((lowered lines).filter fun line => line.1 == name).map fun line =>
          Text.collapseBlanks line.2) := by
    refine List.map_congr_left fun name member => ?_
    have among := mem_sortedNames.mp member
    rw [values name among, ← filter_lowered (mem_names_lowered.mp among).1, List.map_map]
    rfl
  rw [canonicalOver, canonicalRequest, canonicalHeaders, signedHeaders_lowered listable, headers,
    method, url]

theorem covers_sortedNames {lines : List (String × String)} {value : String}
    (named : Named final.headers.lines)
    (values : ∀ name, name ≠ "authorization" →
      valuesUnder name final.headers.lines = valuesUnder name lines)
    (unauthorized : valuesUnder "authorization" lines = [])
    (basic : ∀ name ∈ ["host", payloadHeader, dateHeader], valuesUnder name lines ≠ []) :
    Authorization.Covers ⟨region, sortedNames ((lowered lines).map (·.1)), value⟩ final := by
  have listed : ∀ name, name ∈ sortedNames ((lowered lines).map (·.1)) ↔
      name ∉ unsigned ∧ valuesUnder name lines ≠ [] := fun name => by
    rw [mem_sortedNames, mem_names_lowered]
  refine ⟨ascending_sortedNames _, fun name member => ?_, fun line there other signed => ?_,
    fun name member => ?_, fun name dropped member => ?_⟩
  · have plain : ∀ name ∈ ["host", payloadHeader, dateHeader], name ∉ unsigned := by decide
    exact (listed name).mpr ⟨plain name member, basic name member⟩
  · have apart : Text.lower line.1 ≠ "authorization" := fun same =>
      other ((isPlain_authorization.lower_eq_iff named there).mp same)
    refine (listed _).mpr ⟨signed, ?_⟩
    rw [← values _ apart]
    exact valuesUnder_ne_nil.mpr ⟨line, there, rfl⟩
  · obtain ⟨_, present⟩ := (listed name).mp member
    rw [← values name (ne_of_mem_lowered unauthorized (mem_sortedNames.mp member))] at present
    exact valuesUnder_ne_nil.mp present
  · obtain ⟨signed, present⟩ := (listed name).mp member
    rcases List.mem_cons.mp dropped with rfl | hop
    · exact present unauthorized
    · exact signed hop

theorem verified_of_signs (verifiable : IsVerifiable request)
    (put : hashed.headers.lines =
      Headers.putLine payloadHeader (payloadHash request) request.headers.lines)
    (signs : Signs credentials clock region request final instant hashed dated signed root) :
    ∃ a, Authorization.of? credentials.accessKey final = some a ∧ a.region = region ∧
      a.Covers final ∧ a.recomputed? credentials.secretKey final = some a.signature := by
  obtain ⟨method, url, _, signing⟩ := signs.eq_final
  -- What has been signed are the sources, under names in small letters.
  have basic := fun name (basic : name ∈ ["host", payloadHeader, dateHeader]) =>
    valuesUnder_basic instant.stamp verifiable put basic
  have listable := listable_sources instant.stamp verifiable put
  have lines := signs.lines
  change signedLines _ (sources request hashed instant.stamp) = _ at lines
  rw [signedLines_of_host _ (basic "host" (by decide))] at lines
  cases lines
  rw [signedHeaders_lowered listable] at signing
  have values := fun name (other : name ≠ "authorization") =>
    valuesUnder_final verifiable put signing other
  have unauthorized : valuesUnder "authorization" (sources request hashed instant.stamp) = [] := by
    rw [valuesUnder_sources instant.stamp verifiable put]
    simp [payloadHeader, dateHeader]
  refine ⟨⟨region, sortedNames ((lowered (sources request hashed instant.stamp)).map (·.1)),
    V4.signature root instant.stamp region
      (canonicalRequest hashed.method (.ofChars hashed.url.text.toList)
        (lowered (sources request hashed instant.stamp)) (payloadHash request))⟩, ?_, rfl,
    covers_sortedNames (named_final verifiable put signing) values unauthorized basic, ?_⟩
  · rw [Authorization.of?, get?_date_final signing, get?_authorization_final signing]
    simp only [Option.bind_eq_bind, Option.bind_some]
    have letters := fun name (member : name ∈ sortedNames _) =>
      letters_of_mem_lowered listable (mem_sortedNames.mp member)
    have nonempty : sortedNames ((lowered (sources request hashed instant.stamp)).map (·.1)) ≠ [] :=
      List.ne_nil_of_mem (mem_sortedNames.mpr
        (mem_names_lowered.mpr ⟨by decide, basic "host" (by decide)⟩))
    exact Authorization.read?_authorization credentials region instant.stamp nonempty
      (fun name member => (letters name member).1) (fun name member => (letters name member).2)
      (capital_not_mem_signature _ _ _ _)
  · rw [Authorization.recomputed?, signs.key, get?_date_final signing,
      get?_payload_final put signing]
    simp only [Except.toOption, Option.bind_eq_bind, Option.bind_some, Option.pure_def]
    rw [canonicalOver_eq method url listable]
    exact fun name member => values name (ne_of_mem_lowered unauthorized member)

end

/-- The authorization of a request that told the digest of its payload before it was signed. -/
theorem of?_sign {credentials : Credentials} {clock : Calendar.Reading} {region : String}
    {request : Request} {instant : Calendar.Instant} {signed : List (String × String)}
    (given : request.headers.contains payloadHeader = true) (time : clock.instant? = some instant)
    (lines : signedLines (.ofChars request.url.text.toList)
      (sources request request instant.stamp) = .ok signed)
    (small : 'S' ∉ (signedHeaders signed).toList)
    (returned : (sign credentials clock region request).problem = none) :
    ∃ value signature, Authorization.of? credentials.accessKey
        (sign credentials clock region request).request =
          some ⟨region, ((signedHeaders signed).toList.splitOn ';').map String.ofList, signature⟩ ∧
      (sign credentials clock region request).request.headers.lines =
        Headers.putLine "authorization" value
          (Headers.putLine dateHeader instant.stamp request.headers.lines) := by
  obtain ⟨instant', hashed, dated, signed', root, signs⟩ := signs_of_sign returned
  have same := signs.hash
  rw [if_pos given] at same
  subst same
  cases Option.some.inj (time.symm.trans signs.time)
  cases Except.ok.inj (lines.symm.trans signs.lines)
  obtain ⟨_, _, _, signing⟩ := signs.eq_final
  refine ⟨_, V4.signature root instant.stamp region (canonicalRequest
    hashed.method (.ofChars hashed.url.text.toList) signed (payloadHash hashed)), ?_, signing⟩
  rw [Authorization.of?, get?_date_final signing, get?_authorization_final signing]
  exact Authorization.read?_listed credentials region instant.stamp small
    (capital_not_mem_signature _ _ _ _)

/-- Signing changes three headers of a request, and the request that it gives is verified. -/
theorem verifies_sign (credentials : Credentials) (clock : Calendar.Reading) (region : String)
    {request : Request} (named : Named request.headers.lines)
    (unique : (request.headers.lines.map (·.1)).Nodup)
    (returned : (sign credentials clock region request).problem = none) :
    Verifies credentials clock region request (sign credentials clock region request).request := by
  obtain ⟨instant, hashed, dated, signed, root, signs⟩ := signs_of_sign returned
  obtain ⟨method, url, body, put⟩ := lines_hashed unique signs.hash
  obtain ⟨method', url', body', signing⟩ := signs.eq_final
  exact {
    method := method'.trans method
    url := url'.trans url
    body := body'.trans body
    others := others_final put signing
    payload := get?_payload_final put signing
    date := ⟨instant, signs.time, get?_date_final signing⟩
    verified := fun hosted listable =>
      verified_of_signs ⟨named, unique, hosted, listable⟩ put signs }

end BucketRegion.Signing.V4

/-! ## Requests on their way -/

namespace BucketRegion.Sample

open Http (Request)

def keys : Signing.Credentials := ⟨"AKID", "SECRET"⟩

def instant : Calendar.Instant := ⟨⟨2026, 10, 19⟩, 12, 0, 0⟩

def unsignedPayload (url : Url) (lines : List (String × String)) : Request :=
  ⟨"GET", url, .ofLines (lines ++ [("X-Amz-Content-Sha256", "UNSIGNED-PAYLOAD")]), []⟩

def photosUrl : Url := ⟨"https", "", "s3.amazonaws.com", none, "/photos", none, none⟩

def stale : Request :=
  unsignedPayload photosUrl
    [("Host", "s3.amazonaws.com"), ("User-Agent", "bucketloc/0.1.0"),
      ("X-Amz-Date", "20200101T000000Z"), ("Authorization", "AWS AKID:stale")]

def blankName : Request :=
  unsignedPayload photosUrl [("Host", "s3.amazonaws.com"), ("user-agent ", "x")]

def dividedName : Request :=
  unsignedPayload photosUrl [("Host", "s3.amazonaws.com"), ("a;b", "x")]

/-- A request to a URL that has a port and no host. -/
def hostless : Request :=
  unsignedPayload ⟨"http", "", "", some 8080, "/photos", none, none⟩ []

end BucketRegion.Sample

namespace BucketRegion.Signing.V4

open Http (Request Headers)
open Sample

/-- What comes of signing a request that tells the digest of its payload, at noon: the names that
its authorization lists are read from a text. -/
theorem of?_sign_noon {request : Request} {signed : List (String × String)} (names : List String)
    (given : request.headers.contains payloadHeader = true)
    (taken : signedLines (.ofChars request.url.text.toList)
      (sources request request instant.stamp) = .ok signed)
    (perm : (signed.map fun line => Text.trim (Text.lower line.1)).Perm names)
    (ascending : names.Pairwise (· < ·))
    (ascii : Text.isAscii (";".intercalate names).toList = true)
    (small : 'S' ∉ (";".intercalate names).toList) :
    (sign keys noon "us-east-1" request).problem = none ∧
      (∃ signature, Authorization.of? "AKID" (sign keys noon "us-east-1" request).request =
        some ⟨"us-east-1", ((";".intercalate names).toList.splitOn ';').map String.ofList,
          signature⟩) ∧
      ∀ name ∉ written, (sign keys noon "us-east-1" request).request.headers.contains name =
        request.headers.contains name := by
  have time : noon.instant? = some instant := by decide +kernel
  have listed := signedHeaders_eq names perm ascending
  have returned : (sign keys noon "us-east-1" request).problem = none := by
    refine problem_sign given time taken rfl (by decide +kernel) (by decide) (by decide +kernel) ?_
    rwa [listed]
  rw [← listed] at small ⊢
  obtain ⟨value, signature, read, lines⟩ := of?_sign given time taken small returned
  refine ⟨returned, ⟨signature, read⟩, fun name unwritten => ?_⟩
  simp only [written, List.mem_cons, List.not_mem_nil, or_false, not_or] at unwritten
  rw [Headers.contains, lines, Headers.any_putLine_of_other unwritten.2.2,
    Headers.any_putLine_of_other unwritten.2.1, Headers.contains]

theorem verifies_sign_stale :
    (Named stale.headers.lines ∧ (stale.headers.lines.map (·.1)).Nodup ∧
      (sign keys noon "us-east-1" stale).problem = none) ∧
    Verifies keys noon "us-east-1" stale (sign keys noon "us-east-1" stale).request ∧
      ∃ a, Authorization.of? "AKID" (sign keys noon "us-east-1" stale).request = some a ∧
        a.recomputed? "SECRET" (sign keys noon "us-east-1" stale).request = some a.signature := by
  have named : Named stale.headers.lines := named_ofLines _
  have unique : (stale.headers.lines.map (·.1)).Nodup := by decide +kernel
  have listable : ∀ line ∈ stale.headers.lines, IsListable line.1 := by decide +kernel
  have taken : signedLines (.ofChars stale.url.text.toList) (sources stale stale instant.stamp) =
      .ok [("host", "s3.amazonaws.com"), ("x-amz-date", "20261019T120000Z"),
        ("x-amz-content-sha256", "UNSIGNED-PAYLOAD")] := toOption_eq_some.mp (by decide +kernel)
  have returned : (sign keys noon "us-east-1" stale).problem = none :=
    (of?_sign_noon ["host", "x-amz-content-sha256", "x-amz-date"] rfl taken (by decide +kernel)
      (by decide) (by decide +kernel) (by decide +kernel)).1
  have verifies := verifies_sign keys noon "us-east-1" named unique returned
  obtain ⟨a, read, _, _, recomputed⟩ := verifies.verified rfl listable
  exact ⟨⟨named, unique, returned⟩, verifies, a, read, recomputed⟩

/-- A name with a blank at its end is signed, and listed as the name of a header that is not; a name
with the separator in it is listed as two; and a host that only the URL tells is listed though no
header holds it. -/
theorem unlistable_names_unverified :
    (∃ a, (sign keys noon "us-east-1" blankName).problem = none ∧
      Authorization.of? "AKID" (sign keys noon "us-east-1" blankName).request = some a ∧
        "user-agent" ∈ a.names) ∧
    (∃ a, (sign keys noon "us-east-1" dividedName).problem = none ∧
      Authorization.of? "AKID" (sign keys noon "us-east-1" dividedName).request = some a ∧
        "a;b" ∉ a.names ∧
        (sign keys noon "us-east-1" dividedName).request.headers.contains "a;b" = true) ∧
    ∃ a, (sign keys noon "us-east-1" hostless).problem = none ∧
      Authorization.of? "AKID" (sign keys noon "us-east-1" hostless).request = some a ∧
        "host" ∈ a.names ∧
        (sign keys noon "us-east-1" hostless).request.headers.contains "host" = false := by
  refine ⟨?_, ?_, ?_⟩
  · have taken : signedLines (.ofChars blankName.url.text.toList)
        (sources blankName blankName instant.stamp) = .ok [("host", "s3.amazonaws.com"),
          ("user-agent ", "x"), ("x-amz-date", "20261019T120000Z"),
          ("x-amz-content-sha256", "UNSIGNED-PAYLOAD")] :=
      toOption_eq_some.mp (by decide +kernel)
    obtain ⟨returned, ⟨_, read⟩, kept⟩ := of?_sign_noon
      ["host", "user-agent", "x-amz-content-sha256", "x-amz-date"] rfl taken (by decide +kernel)
      (by decide) (by decide +kernel) (by decide +kernel)
    refine ⟨_, returned, read, ?_⟩
    change "user-agent" ∈ List.map String.ofList _
    decide +kernel
  · have taken : signedLines (.ofChars dividedName.url.text.toList)
        (sources dividedName dividedName instant.stamp) = .ok [("host", "s3.amazonaws.com"),
          ("a;b", "x"), ("x-amz-date", "20261019T120000Z"),
          ("x-amz-content-sha256", "UNSIGNED-PAYLOAD")] :=
      toOption_eq_some.mp (by decide +kernel)
    obtain ⟨returned, ⟨_, read⟩, kept⟩ := of?_sign_noon
      ["a;b", "host", "x-amz-content-sha256", "x-amz-date"] rfl taken (by decide +kernel)
      (by decide) (by decide +kernel) (by decide +kernel)
    refine ⟨_, returned, read, ?_, kept "a;b" (by decide)⟩
    change "a;b" ∉ List.map String.ofList _
    decide +kernel
  · have taken : signedLines (.ofChars hostless.url.text.toList)
        (sources hostless hostless instant.stamp) = .ok [("x-amz-date", "20261019T120000Z"),
          ("x-amz-content-sha256", "UNSIGNED-PAYLOAD"), ("host", "None:8080")] :=
      toOption_eq_some.mp (by decide +kernel)
    obtain ⟨returned, ⟨_, read⟩, kept⟩ := of?_sign_noon
      ["host", "x-amz-content-sha256", "x-amz-date"] rfl taken (by decide +kernel)
      (by decide) (by decide +kernel) (by decide +kernel)
    refine ⟨_, returned, read, ?_, kept "host" (by decide)⟩
    change "host" ∈ List.map String.ofList _
    decide +kernel

end BucketRegion.Signing.V4
