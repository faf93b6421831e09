import BucketRegion.Endpoint
import BucketRegion.Proofs.Url.Canonical

/-!
# Endpoints

An endpoint has been read, and it has a host. The path of a location query is the path of its
bucket, which is one segment, but for the two names that stand for dot segments: these leave no path
at all.
-/

set_option autoImplicit false

namespace BucketRegion

namespace Url

/-! ## Segments of names -/

theorem isPathChar_of_isUnreserved {c : Char} (plain : isUnreserved c = true) :
    isPathChar c = true := by
  have ascii : c.toNat < 128 := ascii_of_isHostChar (by simp [isHostChar, plain])
  have table : ∀ n < 128, isUnreserved (Char.ofNat n) = true →
      isPathChar (Char.ofNat n) = true := by decide
  exact Text.forall_ascii (p := fun c => isUnreserved c = true → isPathChar c = true) table ascii
    plain

theorem toList_encodeSegment (name : String) :
    (encodeSegment name).toList = encodeUnsafe isUnreserved name.toList :=
  String.toList_ofList

theorem isPathChar_encodeSegment (name : String) :
    ∀ c ∈ (encodeSegment name).toList, isPathChar c = true := by
  intro c member
  rw [toList_encodeSegment] at member
  rcases of_mem_encodeUnsafe (p := fun c => isPathChar c = true) (by decide) (by decide) member with
    ⟨_, plain⟩ | octet
  · exact isPathChar_of_isUnreserved plain
  · exact octet

theorem slash_not_mem_encodeSegment (name : String) : '/' ∉ (encodeSegment name).toList := by
  rw [toList_encodeSegment]
  exact slash_not_mem_encodeUnsafe fun _ => by decide

/-- A name that a path cannot have as a segment. -/
def IsDotName (name : String) : Prop := name = "." ∨ name = ".."

instance (name : String) : Decidable (IsDotName name) := by
  unfold IsDotName
  infer_instance

theorem isDots_encodeSegment_iff {name : String} :
    IsDots (encodeSegment name).toList ↔ IsDotName name := by
  have kept : ∀ dots : String, '%' ∉ dots.toList →
      encodeUnsafe isUnreserved dots.toList = dots.toList →
      ((encodeSegment name).toList = dots.toList ↔ name = dots) := by
    intro dots bare fixed
    rw [toList_encodeSegment]
    constructor
    · exact fun same => String.toList_inj.mp (eq_of_encodeUnsafe_eq same bare)
    · rintro rfl
      exact fixed
  exact or_congr (kept "." (by decide) (by decide)) (kept ".." (by decide) (by decide))

/-- A path of one segment is kept, or left out if the segment is one of the dot segments. -/
theorem dropDots_segment {segment : List Char} (absent : '/' ∉ segment) (dots : Prop)
    [Decidable dots] (shown : IsDots segment ↔ dots) :
    dropDots ('/' :: segment) = if dots then [] else '/' :: segment := by
  have segments : Text.splitOn '/' ('/' :: segment) = [[], segment] := by
    rw [Text.splitOn, if_pos (by decide), Text.splitOn_of_not_mem absent]
  split
  · next holds =>
      rcases shown.mpr holds with rfl | rfl <;> decide
  · next plain =>
      refine dropDots_of_undotted fun part member => ?_
      rw [segments] at member
      simp only [List.mem_cons, List.not_mem_nil, or_false] at member
      rcases member with rfl | rfl
      · simp [IsDots]
      · exact mt shown.mp plain

end Url

namespace Endpoint

open Url (IsDotName)

variable {value : Value} {endpoint url : Url} {bucket : String}

theorem toList_bucketPath (bucket : String) :
    (bucketPath bucket).toList = '/' :: (Url.encodeSegment bucket).toList := by
  simp [bucketPath, String.toList_append]

/-- An endpoint has been read; its scheme is one of the web, and its host is not empty. -/
theorem of_parse (accepted : Endpoint.parse value = .ok endpoint) :
    endpoint.Arises ∧ (endpoint.scheme = "http" ∨ endpoint.scheme = "https") ∧
      endpoint.host ≠ "" := by
  unfold Endpoint.parse at accepted
  split at accepted
  · split at accepted
    · cases accepted
    · next _ read done =>
        split at accepted
        · cases accepted
        · next web =>
            split at accepted
            · cases accepted
            · cases accepted
            · next host some named =>
                cases accepted
                refine ⟨.read done, ?_, fun empty => ?_⟩
                · simpa [imp_iff_not_or, or_comm] using web
                · rw [Url.hostName, empty] at named
                  exact some (Except.ok.inj named).symm
  · cases accepted

/-- The change that makes a location query of an endpoint. -/
def locationChange (bucket : String) : Url.Change :=
  { path := some (bucketPath bucket), query := some "location=" }

/-- What the change makes: path and query take the place of those of the endpoint. -/
theorem result_locationChange (canonical : endpoint.IsCanonical)
    (fronted : (endpoint.hasScheme || endpoint.hasAuthority) = true) (bucket : String) :
    (locationChange bucket).result endpoint = { endpoint.reviewed with
      path := if IsDotName bucket then "" else bucketPath bucket
      query := some "location=" } := by
  have path : String.ofList (Url.canonicalPath true (bucketPath bucket).toList) =
      if IsDotName bucket then "" else bucketPath bucket := by
    rw [Url.canonicalPath, if_pos rfl, toList_bucketPath,
      Url.dropDots_segment (Url.slash_not_mem_encodeSegment bucket) (IsDotName bucket)
        Url.isDots_encodeSegment_iff]
    split
    · rfl
    · have plain : ∀ c ∈ '/' :: (Url.encodeSegment bucket).toList, Url.isPathChar c = true :=
        List.forall_mem_cons.mpr ⟨by decide, Url.isPathChar_encodeSegment bucket⟩
      rw [Url.requote_of_safe (by decide) plain, ← toList_bucketPath, String.ofList_toList]
  have query : Url.requote Url.isQueryChar "location=".toList = "location=".toList := by
    decide +kernel
  calc (locationChange bucket).result endpoint
      = { endpoint.reviewed with
          path := String.ofList (Url.canonicalPath (endpoint.hasScheme || endpoint.hasAuthority)
            (bucketPath bucket).toList)
          query := some (String.ofList (Url.requote Url.isQueryChar "location=".toList))
          fragment := endpoint.fragment.map fun fragment =>
            String.ofList (Url.requote Url.isFragmentChar fragment.toList) } := rfl
    _ = { endpoint.reviewed with
          path := if IsDotName bucket then "" else bucketPath bucket
          query := some "location=" } := by
        rw [fronted, path, query, String.ofList_toList, Url.requote_fragment canonical]
        rfl

theorem hasScheme_of_parse (accepted : Endpoint.parse value = .ok endpoint) :
    endpoint.hasScheme = true := by
  rw [Url.hasScheme]
  rcases (of_parse accepted).2.1 with web | web
  · rw [web]
    rfl
  · rw [web]
    rfl

theorem locationUrl_eq (accepted : Endpoint.parse value = .ok endpoint)
    (located : locationUrl endpoint bucket = .ok url) :
    url = { endpoint.reviewed with
      path := if IsDotName bucket then "" else bucketPath bucket
      query := some "location=" } := by
  have canonical := (of_parse accepted).1.isCanonical
  obtain ⟨_, whole⟩ := (Url.change_eq_ok canonical rfl).mp located
  rw [whole, ← result_locationChange canonical (by rw [hasScheme_of_parse accepted]; rfl)]
  rfl

end Endpoint

end BucketRegion
