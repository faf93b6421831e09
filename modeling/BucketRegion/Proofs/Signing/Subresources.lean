import BucketRegion.Proofs.Signing.Resigning
import BucketRegion.Proofs.Url.Written

/-!
# Parameters that are signed

The older version signs the text of another URL, in which each part of the query is without an
equals sign at its end. So a parameter with an empty value becomes a bare key, and all values are
kept but those that end in an equals sign: they lose it. The URL is not got at all if a component of
it is too long or its host is not legible.
-/

set_option autoImplicit false

namespace BucketRegion.Signing

/-- What the URL whose text is signed has of the one that is asked for. Its query may be spelled in
another way. -/
structure Keeps (spell : String → String) (url signing : Url) : Prop where
  path : signing.path = url.path
  query : signing.query = url.query.map spell
  host : signing.host.toList.isEmpty = url.host.toList.isEmpty
  canonical : signing.IsCanonical

namespace V2

open Text (splitOn joinWith)
open Url.Reference (cutAtMark)

/-! ## Parts -/

section

variable {part : List Char}

theorem dropEquals_concat (part : List Char) : dropEquals (part ++ ['=']) = part := by
  simp [dropEquals]

theorem dropEquals_eq_self_iff : dropEquals part = part ↔ part.getLast? ≠ some '=' := by
  rw [dropEquals]
  split
  · next ends =>
      obtain ⟨front, rfl⟩ := List.getLast?_eq_some_iff.mp (beq_iff_eq.mp ends)
      simp
  · next other => simpa using other

theorem mem_of_mem_dropEquals {c : Char} (member : c ∈ dropEquals part) : c ∈ part := by
  rw [dropEquals] at member
  split at member
  · exact List.mem_of_mem_dropLast member
  · exact member

/-- A part keeps its key, and its value loses an equals sign at its end. -/
theorem dropEquals_pair {key : List Char} (value : List Char) :
    dropEquals (key ++ '=' :: value) =
      if value = [] then key else key ++ '=' :: dropEquals value := by
  rcases List.eq_nil_or_concat' value with rfl | ⟨front, c, rfl⟩
  · exact dropEquals_concat key
  · have whole : key ++ '=' :: (front ++ [c]) = (key ++ '=' :: front) ++ [c] := by simp
    rw [if_neg (by simp), dropEquals, dropEquals, whole, List.getLast?_concat,
      List.getLast?_concat, List.dropLast_concat, List.dropLast_concat]
    split
    · rfl
    · exact whole.symm

end

/-- The parameters of a query, as a service reads them: a missing value is an empty one. -/
def parameters (query : String) : List (List Char × List Char) :=
  (splitOn '&' query.toList).map (cutAtMark '=')

/-- A part that is signed for a parameter. -/
def signedPart (parameter : List Char × List Char) : List Char :=
  if parameter.2 = [] then parameter.1 else parameter.1 ++ '=' :: dropEquals parameter.2

/-- The parameter that a service reads from the part that is signed for it. -/
def signedParameter (parameter : List Char × List Char) : List Char × List Char :=
  (parameter.1, dropEquals parameter.2)

theorem dropEquals_eq_signedPart (part : List Char) :
    dropEquals part = signedPart (cutAtMark '=' part) := by
  cases cut : Text.cut? '=' part with
  | none =>
      have absent := Text.not_mem_of_cut?_eq_none cut
      rw [Url.Reference.cutAtMark_of_not_mem absent, signedPart, if_pos rfl]
      exact dropEquals_eq_self_iff.mpr fun last => absent (List.mem_of_getLast? last)
  | some pair =>
      obtain ⟨key, value⟩ := pair
      obtain ⟨rfl, absent⟩ := Text.cut?_eq_some cut
      rw [Url.Reference.cutAtMark_append absent, signedPart, dropEquals_pair]

theorem cutAtMark_dropEquals (part : List Char) :
    cutAtMark '=' (dropEquals part) = signedParameter (cutAtMark '=' part) := by
  have keyless := Url.Reference.not_mem_cutAtMark '=' part
  rw [dropEquals_eq_signedPart, signedPart, signedParameter]
  split
  · next empty =>
      rw [Url.Reference.cutAtMark_of_not_mem keyless, empty]
      rfl
  · exact Url.Reference.cutAtMark_append keyless _

/-! ## Queries -/

/-- The query of the URL whose text is signed. -/
def signedQuery (query : String) : String :=
  String.ofList (joinWith ['&'] ((splitOn '&' query.toList).map dropEquals))

theorem splitOn_signedQuery (query : String) :
    splitOn '&' (signedQuery query).toList = (splitOn '&' query.toList).map dropEquals := by
  rw [signedQuery, String.toList_ofList]
  refine Text.splitOn_joinWith (fun part member => ?_) (by simp [Text.splitOn_ne_nil])
  obtain ⟨source, among, rfl⟩ := List.mem_map.mp member
  exact fun mark => Text.not_mem_of_mem_splitOn among (mem_of_mem_dropEquals mark)

theorem parameters_signedQuery (query : String) :
    parameters (signedQuery query) = (parameters query).map signedParameter := by
  rw [parameters, splitOn_signedQuery, parameters, List.map_map, List.map_map]
  exact List.map_congr_left fun part _ => cutAtMark_dropEquals part

theorem parameters_signedQuery_eq_iff (query : String) :
    parameters (signedQuery query) = parameters query ↔
      ∀ parameter ∈ parameters query, parameter.2.getLast? ≠ some '=' := by
  rw [parameters_signedQuery]
  conv_lhs => rhs; rw [← List.map_id (parameters query)]
  rw [List.map_inj_left]
  refine forall₂_congr fun parameter _ => ?_
  rw [← dropEquals_eq_self_iff, signedParameter, id, Prod.ext_iff]
  simp

theorem isQueryChar_signedQuery {query : String}
    (plain : ∀ c ∈ query.toList, Url.isQueryChar c = true) :
    ∀ c ∈ (signedQuery query).toList, Url.isQueryChar c = true := by
  intro c member
  rw [signedQuery, String.toList_ofList] at member
  rcases Text.mem_joinWith member with rfl | ⟨part, among, within⟩
  · decide
  · obtain ⟨source, there, rfl⟩ := List.mem_map.mp among
    exact plain c (Text.mem_of_mem_splitOn there (mem_of_mem_dropEquals within))

/-! ## The URL whose text is signed -/

section

variable {url signing : Url} {query : String}

theorem signingUrl_of_query (asked : url.query = some query) :
    signingUrl url = if query = "" then .ok url
      else url.change { query := some (signedQuery query) } := by
  rw [signingUrl, asked, Option.getD_some]
  split
  · rfl
  · next some => rw [if_neg some]; rfl

theorem signingUrl_eq_ok (canonical : url.IsCanonical) (asked : url.query = some query) :
    signingUrl url = .ok signing ↔
      query = "" ∧ signing = url ∨
        query ≠ "" ∧ (url.IsLegible ∧ url.IsShort (signedQuery query)) ∧
          signing = { url.reviewed with query := some (signedQuery query) } := by
  have plain := isQueryChar_signedQuery (canonical.query query asked)
  rw [signingUrl_of_query asked]
  split
  · next empty => simp [empty, eq_comm]
  · next some =>
      rw [Url.change_eq_ok canonical rfl, Url.suits_query_iff canonical plain,
        Url.result_query canonical plain]
      simp [some]

theorem keeps_signingUrl (canonical : url.IsCanonical) (made : signingUrl url = .ok signing) :
    Keeps signedQuery url signing := by
  cases asked : url.query with
  | none =>
      rw [signingUrl, asked] at made
      cases made
      exact ⟨rfl, by rw [asked]; rfl, rfl, canonical⟩
  | some query =>
      rcases (signingUrl_eq_ok canonical asked).mp made with ⟨empty, rfl⟩ | ⟨some, _, whole⟩
      · exact ⟨rfl, by rw [asked, empty]; rfl, rfl, canonical⟩
      · refine ⟨by rw [whole]; rfl, by rw [whole, asked]; rfl, ?_, ?_⟩
        · rw [whole]
          exact Url.isEmpty_host_reviewed url
        · rw [signingUrl_of_query asked, if_neg some] at made
          exact Url.isCanonical_change canonical (by simp) made

end

/-- Which parameters are signed. The path is kept, an empty value becomes a bare key, and a service
reads the same parameters if no value ends in an equals sign; a value that does loses the sign. -/
theorem signedParameters_signingUrl {url : Url} {query : String} (arises : url.Arises)
    (asked : url.query = some query) :
    ((∃ signing, signingUrl url = .ok signing) ↔
      query = "" ∨ url.IsLegible ∧ url.IsShort (signedQuery query)) ∧
    ∀ signing, signingUrl url = .ok signing →
      signing.path = url.path ∧ ∃ signed, signing.query = some signed ∧
        splitOn '&' signed.toList = (parameters query).map signedPart ∧
        parameters signed = (parameters query).map signedParameter ∧
        (parameters signed = parameters query ↔
          ∀ parameter ∈ parameters query, parameter.2.getLast? ≠ some '=') := by
  have canonical := arises.isCanonical
  constructor
  · simp only [signingUrl_eq_ok canonical asked]
    by_cases empty : query = ""
    · simp [empty]
    · simp [empty]
  · intro signing made
    have keeps := keeps_signingUrl canonical made
    have signed := keeps.query
    rw [asked] at signed
    refine ⟨keeps.path, signedQuery query, signed, ?_, parameters_signedQuery query,
      parameters_signedQuery_eq_iff query⟩
    rw [splitOn_signedQuery, parameters, List.map_map]
    exact List.map_congr_left fun part _ => dropEquals_eq_signedPart part

end V2

end BucketRegion.Signing

/-! ## Opaque identifiers -/

namespace BucketRegion.Sample

/-- A request for a part of a photo. -/
def partUrl (query : String) : Url := { photosUrl with query := some query }

def partRequest (query : String) : Http.Request :=
  unsignedPayload (partUrl query) [("Host", "s3.amazonaws.com")]

end BucketRegion.Sample

namespace BucketRegion.Signing.V2

open Sample

theorem signedParameters_partUrl :
    (partUrl "acl=&versionId=a=b==&uploads").Arises ∧
      (partUrl "acl=&versionId=a=b==&uploads").query = some "acl=&versionId=a=b==&uploads" ∧
      ∃ signing, signingUrl (partUrl "acl=&versionId=a=b==&uploads") = .ok signing ∧
        signing.path = "/photos" ∧ ∃ signed, signing.query = some signed ∧
          parameters signed = [("acl".toList, []), ("versionId".toList, "a=b=".toList),
            ("uploads".toList, [])] ∧
          parameters signed ≠ parameters "acl=&versionId=a=b==&uploads" := by
  have read : Url.parse "https://s3.amazonaws.com/photos?acl=&versionId=a=b==&uploads" =
      .ok (partUrl "acl=&versionId=a=b==&uploads") :=
    toOption_eq_some.mp (by decide +kernel)
  have asked : (partUrl "acl=&versionId=a=b==&uploads").query =
      some "acl=&versionId=a=b==&uploads" := rfl
  obtain ⟨returns, signs⟩ := signedParameters_signingUrl (.read read) asked
  obtain ⟨signing, made⟩ :=
    returns.mpr (.inr ⟨.inr (by decide +kernel), by decide +kernel⟩)
  obtain ⟨path, signed, there, _, pairs, same⟩ := signs signing made
  have shown : (parameters "acl=&versionId=a=b==&uploads").map signedParameter =
      [("acl".toList, []), ("versionId".toList, "a=b=".toList), ("uploads".toList, [])] := by
    decide +kernel
  refine ⟨.read read, asked, signing, made, path, signed, there, pairs.trans shown, ?_⟩
  intro kept
  exact absurd (same.mp kept) (by decide +kernel)

/-- The identifier of an upload is signed without the equals sign that it ends in, so two uploads get
the same signature. -/
theorem upload_signed_short :
    (Url.parse "https://s3.amazonaws.com/photos?uploadId=abc=").toOption =
        some (partUrl "uploadId=abc=") ∧
      (signingUrl (partUrl "uploadId=abc=")).toOption = some (partUrl "uploadId=abc") ∧
      parameters "uploadId=abc=" = [("uploadId".toList, "abc=".toList)] ∧
      parameters "uploadId=abc" ≠ parameters "uploadId=abc=" ∧
      (lastTask.sign (partRequest "uploadId=abc=")).problem = none ∧
      (lastTask.sign (partRequest "uploadId=abc=")).request.headers.get? "authorization" =
        (lastTask.sign (partRequest "uploadId=abc")).request.headers.get? "authorization" := by
  decide +kernel

end BucketRegion.Signing.V2
