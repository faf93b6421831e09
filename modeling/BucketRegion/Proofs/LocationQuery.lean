import BucketRegion.Proofs.Signing.Path
import BucketRegion.Proofs.Url.Percent

/-!
# Location queries

A location query goes to the service of its endpoint and names one bucket: of two buckets the
queries differ, whatever marks of a URL the names hold. The three names that leave no segment are the
exception. The query for a bucket may take the place of the endpoint, as its own path and query are
replaced in turn.
-/

set_option autoImplicit false

namespace BucketRegion

namespace Url

/-! ## URLs that are read again -/

variable {url : Url}

theorem ascii_or_toLower_eq (c : Char) : c.toNat < 128 ∨ c.toLower = c := by
  by_cases capital : c.isUpper
  · left
    simp only [Char.isUpper, decide_eq_true_eq, UInt32.le_iff_toNat_le] at capital
    have upper : c.toNat ≤ 90 := capital.2
    omega
  · exact .inr (Char.toLower_eq_of_not_isUpper capital)

theorem isDigit_toLower (c : Char) : c.toLower.isDigit = c.isDigit := by
  have table : ∀ n < 128, (Char.ofNat n).toLower.isDigit = (Char.ofNat n).isDigit := by decide
  rcases ascii_or_toLower_eq c with ascii | same
  · exact Text.forall_ascii (p := fun c => c.toLower.isDigit = c.isDigit) table ascii
  · rw [same]

theorem toLower_eq_colon_iff (c : Char) : c.toLower = ':' ↔ c = ':' := by
  have table : ∀ n < 128, (Char.ofNat n).toLower = ':' ↔ Char.ofNat n = ':' := by decide
  rcases ascii_or_toLower_eq c with ascii | same
  · exact Text.forall_ascii (p := fun c => c.toLower = ':' ↔ c = ':') table ascii
  · rw [same]

theorem colon_mem_toLower {host : List Char} :
    ':' ∈ host.map Char.toLower ↔ ':' ∈ host := by
  simp only [List.mem_map, toLower_eq_colon_iff, exists_eq_right]

theorem Address.looksLikeVersion4_toLower (host : List Char) :
    looksLikeVersion4 (host.map Char.toLower) = looksLikeVersion4 host := by
  have step (states : List (Nat × Bool)) (c : Char) :
      stepRuns states c.toLower = stepRuns states c := by
    rw [stepRuns, isDigit_toLower, stepRuns]
  rw [looksLikeVersion4, looksLikeVersion4, List.foldl_map]
  simp only [step]

theorem toList_host_reviewed (url : Url) :
    url.reviewed.host.toList = if ':' ∈ url.host.toList then url.host.toList
      else url.host.toList.map Char.toLower := by
  simp only [reviewed, String.toList_ofList, List.contains_iff_mem]

theorem colon_mem_host_reviewed (url : Url) :
    ':' ∈ url.reviewed.host.toList ↔ ':' ∈ url.host.toList := by
  rw [toList_host_reviewed]
  split
  · rfl
  · exact colon_mem_toLower

theorem isLegible_reviewed (legible : url.IsLegible) : url.reviewed.IsLegible := by
  by_cases colon : ':' ∈ url.host.toList
  · exact .inl ((colon_mem_host_reviewed url).mpr colon)
  · refine .inr fun looks => ?_
    rw [toList_host_reviewed, if_neg colon] at looks ⊢
    rw [Address.looksLikeVersion4_toLower] at looks
    have four := legible.resolve_left colon looks
    rwa [List.map_congr_left (g := id) fun c member => (Address.isHostChar_of_isVersion4 four c
      member).2, List.map_id]

theorem reviewed_reviewed (url : Url) : url.reviewed.reviewed = url.reviewed := by
  have host : url.reviewed.reviewed.host = url.reviewed.host := by
    rw [← String.toList_inj, toList_host_reviewed]
    split
    · rfl
    · next colonless =>
        rw [toList_host_reviewed, if_neg (mt (colon_mem_host_reviewed url).mpr colonless),
          List.map_map]
        exact List.map_congr_left fun c _ => Char.toLower_toLower_eq_toLower c
  have port : url.reviewed.reviewed.port = url.reviewed.port := by
    simp only [reviewed]
    split
    · split <;> rfl
    · rfl
  exact congrArg₂ (fun host port => { url with host, port }) host port

theorem reviewed_with (url : Url) (path : String) (query : Option String) :
    ({ url with path, query } : Url).reviewed = { url.reviewed with path, query } := rfl

theorem length_authority_reviewed (url : Url) :
    url.reviewed.authority.toList.length ≤ url.authority.toList.length := by
  have host : url.reviewed.shownHost.length = url.shownHost.length := by
    simp only [shownHost, List.contains_iff_mem, colon_mem_host_reviewed]
    rw [toList_host_reviewed]
    split
    · rfl
    · exact List.length_map _
  have port : url.reviewed.portPart.length ≤ url.portPart.length := by
    simp only [portPart, reviewed]
    split
    · exact Nat.zero_le _
    · exact le_rfl
  simp only [Url.authority, String.toList_append, List.length_append, toList_netloc, host]
  exact Nat.add_le_add_left (Nat.add_le_add_left port _) _

/-- The port that a request goes to. -/
def effectivePort? (url : Url) : Option Int := url.port.or (impliedPort? url.scheme)

theorem effectivePort?_reviewed (url : Url) : url.reviewed.effectivePort? = url.effectivePort? := by
  simp only [effectivePort?, reviewed]
  split
  · next implied =>
      rw [← eq_of_beq implied]
      cases impliedPort? url.scheme <;> rfl
  · rfl

end Url

namespace Endpoint

open Url (IsDotName lengthLimit)

variable {value : Value} {endpoint url url' : Url} {bucket other : String}

/-! ## Where there is a query -/

/-- Whether the components that a query keeps are short enough, and the host can be read. -/
structure IsAskable (endpoint : Url) : Prop where
  scheme : endpoint.scheme.toList.length ≤ lengthLimit
  authority : endpoint.authority.toList.length ≤ lengthLimit
  legible : endpoint.IsLegible
  fragment : ∀ fragment ∈ endpoint.fragment, fragment.toList.length ≤ lengthLimit

/-- The query for a bucket, of which the path may be too long. -/
def query? (endpoint : Url) (bucket : String) : Except UrlError Url :=
  if (bucketPath bucket).toList.length ≤ lengthLimit then
    .ok { endpoint.reviewed with
      path := if IsDotName bucket then "" else bucketPath bucket
      query := some "location=" }
  else .error (.longComponent "path")

theorem isAskable_of_locationUrl (canonical : endpoint.IsCanonical)
    (located : locationUrl endpoint bucket = .ok url) :
    IsAskable endpoint ∧ (bucketPath bucket).toList.length ≤ lengthLimit := by
  obtain ⟨suits, _⟩ := (Url.change_eq_ok canonical rfl).mp located
  exact ⟨⟨suits.scheme, suits.authority, suits.legible, fun fragment kept =>
    (Url.checkComponent_eq_ok.mp (suits.fragment fragment kept)).1⟩,
    (Url.checkComponent_eq_ok.mp suits.path).1⟩

/-- There is a query for each bucket whose path is not too long. -/
theorem locationUrl_eq_query? (canonical : endpoint.IsCanonical)
    (fronted : endpoint.hasScheme = true) (askable : IsAskable endpoint) (bucket : String) :
    locationUrl endpoint bucket = query? endpoint bucket := by
  have unmarked : ∀ c ∈ (bucketPath bucket).toList,
      Text.isAsciiControl c = false ∧ c ∉ ['?', '#'] := by
    intro c member
    have plain : Url.isPathChar c = true := by
      rw [toList_bucketPath] at member
      rcases List.mem_cons.mp member with rfl | within
      · decide
      · exact Url.isPathChar_encodeSegment bucket c within
    have visible := Url.isQueryChar_of_isPathChar plain
    simp [Url.not_control_of_isQueryChar visible, Url.question_ne_of_isPathChar plain,
      Url.hash_ne_of_isQueryChar visible]
  rw [query?]
  split
  · next short =>
      have suits : (locationChange bucket).Suits endpoint := {
        scheme := askable.scheme
        authority := askable.authority
        legible := askable.legible
        path := Url.checkComponent_eq_ok.mpr ⟨short, unmarked⟩
        query := by
          intro query asked
          cases Option.some.inj asked
          decide
        fragment := by
          intro fragment kept
          refine Url.checkComponent_eq_ok.mpr ⟨askable.fragment fragment kept, fun c member => ?_⟩
          have plain := canonical.fragment fragment kept c member
          exact ⟨Url.not_control_of_isFragmentChar plain, List.not_mem_nil⟩
        fits := by
          refine Url.checkPath_eq_ok.mpr ⟨fun _ => .inr ⟨_, toList_bucketPath bucket⟩, ?_⟩
          intro schemeless
          rw [fronted] at schemeless
          cases schemeless }
      rw [← result_locationChange canonical (by rw [fronted]; rfl)]
      exact (Url.change_eq_ok canonical rfl).mpr ⟨suits, rfl⟩
  · next long =>
      have scheme : Url.checkComponent "scheme" [] endpoint.scheme.toList = .ok () :=
        Url.checkComponent_eq_ok.mpr ⟨askable.scheme, fun c member =>
          ⟨(Url.of_isSchemeChar (canonical.scheme c member).1).2.1, List.not_mem_nil⟩⟩
      have authority : Url.checkComponent "authority" ['/', '?', '#'] endpoint.authority.toList =
          .ok () :=
        Url.checkComponent_eq_ok.mpr ⟨askable.authority, fun c member =>
          Url.unmarked_of_mem_authority canonical member⟩
      have path : Url.checkComponent "path" ['?', '#'] (bucketPath bucket).toList =
          .error (.longComponent "path") := by
        rw [Url.checkComponent, if_pos (Nat.lt_of_not_le long)]
      unfold locationUrl Url.change
      dsimp only
      rw [scheme, authority, Option.getD_some, path]
      rfl

/-! ## What a query asks for -/

/-- The segment of a bucket in the path of its query. -/
def askedSegment (bucket : String) : List Char :=
  if IsDotName bucket then [] else (Url.encodeSegment bucket).toList

/-- The names of which no segment is left. -/
def LeavesNothing (bucket : String) : Prop := bucket = "" ∨ IsDotName bucket

theorem askedSegment_eq_nil_iff : askedSegment bucket = [] ↔ LeavesNothing bucket := by
  have empty : (Url.encodeSegment bucket).toList = [] ↔ bucket = "" := by
    have none : Url.encodeSegment "" = "" := by decide
    rw [String.toList_eq_nil_iff]
    constructor
    · exact fun shown => Url.encodeSegment_injective (shown.trans none.symm)
    · rintro rfl
      exact none
  rw [askedSegment, LeavesNothing]
  split
  · next dots => simp [dots]
  · next plain => simp [plain, empty]

theorem askedSegment_eq_iff :
    askedSegment other = askedSegment bucket ↔
      other = bucket ∨ LeavesNothing other ∧ LeavesNothing bucket := by
  constructor
  · intro same
    by_cases nothing : LeavesNothing bucket
    · rw [askedSegment_eq_nil_iff.mpr nothing] at same
      exact .inr ⟨askedSegment_eq_nil_iff.mp same, nothing⟩
    · have something : ¬ LeavesNothing other := fun none => nothing
        (askedSegment_eq_nil_iff.mp (same ▸ askedSegment_eq_nil_iff.mpr none))
      have plain (name : String) (some : ¬ LeavesNothing name) :
          askedSegment name = (Url.encodeSegment name).toList :=
        if_neg fun dots => some (.inr dots)
      rw [plain other something, plain bucket nothing, String.toList_inj] at same
      exact .inl (Url.encodeSegment_injective same)
  · rintro (rfl | ⟨none, none'⟩)
    · rfl
    · rw [askedSegment_eq_nil_iff.mpr none, askedSegment_eq_nil_iff.mpr none']

/-- What the query for a bucket has of its endpoint, and of its bucket. -/
structure NamesBucket (endpoint : Url) (bucket : String) (url : Url) : Prop where
  scheme : url.scheme = endpoint.scheme
  userinfo : url.userinfo = endpoint.userinfo
  fragment : url.fragment = endpoint.fragment
  host : url.host.toList.map Char.toLower = endpoint.host.toList.map Char.toLower
  port : url.effectivePort? = endpoint.effectivePort?
  query : url.query = some "location="
  segment : ¬ IsDotName bucket → ∃ segment, url.askedPath = '/' :: segment ∧ '/' ∉ segment ∧
    Url.decodeText (String.ofList segment) = bucket
  root : IsDotName bucket → url.askedPath = ['/']

section

variable (accepted : Endpoint.parse value = .ok endpoint)
  (located : locationUrl endpoint bucket = .ok url)

include accepted located

theorem isCanonical_of_locationUrl : url.IsCanonical :=
  ((of_parse accepted).1.changed (by simp) located).isCanonical

theorem askedPath_of_locationUrl : url.askedPath = '/' :: askedSegment bucket := by
  rw [(Url.toList_target (isCanonical_of_locationUrl accepted located)).2.2,
    locationUrl_eq accepted located, askedSegment]
  by_cases dots : IsDotName bucket
  · simp [dots]
  · have some : bucketPath bucket ≠ "" := by simp [bucketPath]
    simp [dots, some, toList_bucketPath]

theorem target_of_locationUrl :
    url.target.toList = '/' :: askedSegment bucket ++ '?' :: "location=".toList := by
  rw [(Url.toList_target (isCanonical_of_locationUrl accepted located)).1,
    askedPath_of_locationUrl accepted located, locationUrl_eq accepted located]
  rfl

theorem namesBucket_of_locationUrl : NamesBucket endpoint bucket url := by
  have whole := locationUrl_eq accepted located
  have asked := askedPath_of_locationUrl accepted located
  constructor
  case scheme => rw [whole]; rfl
  case userinfo => rw [whole]; rfl
  case fragment => rw [whole]; rfl
  case query => rw [whole]
  case host =>
    have host : url.host = endpoint.reviewed.host := by rw [whole]
    rw [host, Url.toList_host_reviewed]
    split
    · rfl
    · rw [List.map_map]
      exact List.map_congr_left fun c _ => Char.toLower_toLower_eq_toLower c
  case port =>
    rw [← Url.effectivePort?_reviewed endpoint, whole]
    rfl
  case segment =>
    intro plain
    have shown : askedSegment bucket = (Url.encodeSegment bucket).toList := if_neg plain
    refine ⟨askedSegment bucket, asked, ?_, ?_⟩
    · rw [shown]
      exact Url.slash_not_mem_encodeSegment bucket
    · rw [shown, String.ofList_toList, Url.decodeText_encodeSegment]
  case root =>
    intro dots
    rw [asked, askedSegment, if_pos dots]

theorem target_eq_iff (located' : locationUrl endpoint other = .ok url') :
    url'.target = url.target ↔
      other = bucket ∨ LeavesNothing other ∧ LeavesNothing bucket := by
  rw [← askedSegment_eq_iff, ← String.toList_inj, target_of_locationUrl accepted located,
    target_of_locationUrl accepted located', List.append_left_inj, List.cons.injEq]
  simp

/-- The query of one bucket does for an endpoint, whatever bucket is asked for next. -/
theorem locationUrl_locationUrl (other : String) :
    locationUrl url other = locationUrl endpoint other := by
  have canonical := (of_parse accepted).1.isCanonical
  have fronted := hasScheme_of_parse accepted
  have whole := locationUrl_eq accepted located
  obtain ⟨askable, _⟩ := isAskable_of_locationUrl canonical located
  have again : IsAskable url := {
    scheme := by
      rw [whole]
      exact askable.scheme
    authority := by
      rw [whole]
      exact (Url.length_authority_reviewed endpoint).trans askable.authority
    legible := by
      have legible := Url.isLegible_reviewed askable.legible
      rw [Url.IsLegible] at legible ⊢
      rwa [whole]
    fragment := by
      rw [whole]
      exact askable.fragment }
  have reviewed : url.reviewed = { endpoint.reviewed with
      path := if IsDotName bucket then "" else bucketPath bucket
      query := some "location=" } := by
    rw [whole, Url.reviewed_with, Url.reviewed_reviewed]
  have same : query? url other = query? endpoint other := by
    rw [query?, query?, reviewed]
  rw [locationUrl_eq_query? canonical fronted askable,
    locationUrl_eq_query? (isCanonical_of_locationUrl accepted located) ?_ again, same]
  rw [whole]
  exact fronted

end

/-- The query for a bucket names that bucket at its endpoint, other queries name others, and it may
take the place of the endpoint. -/
theorem locationUrl_names_bucket (accepted : Endpoint.parse value = .ok endpoint)
    (located : locationUrl endpoint bucket = .ok url) :
    NamesBucket endpoint bucket url ∧
      (∀ other url', locationUrl endpoint other = .ok url' →
        (url'.target = url.target ↔
          other = bucket ∨ LeavesNothing other ∧ LeavesNothing bucket)) ∧
      ∀ other, locationUrl url other = locationUrl endpoint other :=
  ⟨namesBucket_of_locationUrl accepted located,
    fun _ _ located' => target_eq_iff accepted located located',
    locationUrl_locationUrl accepted located⟩

end Endpoint

namespace Sample

/-- An endpoint whose host is told apart from another by quoting only, with all other parts. -/
def gateway : Url :=
  ⟨"https", "user", "s3.example.com%5Ea", some 8443, "/base", some "x=1", some "top"⟩

/-- The query for a bucket whose name is full of marks. -/
def markedQuery : Url :=
  { gateway with
    host := "s3.example.com%5ea"
    path := "/a%2Fb%3Fc%23%252F%20%C3%A9"
    query := some "location=" }

end Sample

namespace Endpoint

open Sample

theorem locationUrl_names_marked :
    Endpoint.parse (.text "HTTPS://user@S3.Example.com^a:8443/base?x=1#top") = .ok gateway ∧
      locationUrl gateway "a/b?c#%2F é" = .ok markedQuery ∧
      NamesBucket gateway "a/b?c#%2F é" markedQuery ∧
      (∀ other url', locationUrl gateway other = .ok url' →
        (url'.target = markedQuery.target ↔ other = "a/b?c#%2F é" ∨
          LeavesNothing other ∧ LeavesNothing "a/b?c#%2F é")) ∧
      ∀ other, locationUrl markedQuery other = locationUrl gateway other := by
  have accepted : Endpoint.parse (.text "HTTPS://user@S3.Example.com^a:8443/base?x=1#top") =
      .ok gateway := toOption_eq_some.mp (by decide +kernel)
  have located : locationUrl gateway "a/b?c#%2F é" = .ok markedQuery :=
    toOption_eq_some.mp (by decide +kernel)
  exact ⟨accepted, located, locationUrl_names_bucket accepted located⟩

end Endpoint

end BucketRegion
