import BucketRegion.Proofs.Endpoint
import BucketRegion.Proofs.Signing.Repeated
import BucketRegion.Proofs.Signing.Subresources

/-!
# The path that is signed

A signature is computed from the path in the text of a URL, and a request asks for the path of the
URL. These are the same if the URL has a path and its text cannot be taken for anything else. An
empty path is asked for as a slash and signed as it is, so the query for the location of a bucket
is signed with the path that it asks for unless the name of the bucket is one of the dot segments.
-/

set_option autoImplicit false

namespace BucketRegion

namespace SignatureVersion

/-- The URL whose text is signed. -/
def signedUrl? : SignatureVersion → Url → Except UrlError Url
  | v4, url => .ok url
  | v2, url => Signing.V2.signingUrl url

/-- The query of the URL whose text is signed. -/
def signedQuery : SignatureVersion → String → String
  | v4, query => query
  | v2, query => Signing.V2.signedQuery query

variable {version : SignatureVersion} {url signing : Url}

theorem keeps_signedUrl? (canonical : url.IsCanonical)
    (made : version.signedUrl? url = .ok signing) :
    Signing.Keeps version.signedQuery url signing := by
  cases version with
  | v4 =>
      cases made
      exact ⟨rfl, Option.map_id'.symm, rfl, canonical⟩
  | v2 => exact Signing.V2.keeps_signingUrl canonical made

end SignatureVersion

namespace Url

/-! ## Paths in texts and in requests -/

/-- The path in the text of a URL. -/
def writtenPath (url : Url) : List Char := (Reference.ofChars url.text.toList).path

/-- The query in the text of a URL. -/
def writtenQuery (url : Url) : List Char := (Reference.ofChars url.text.toList).query

/-- The path that a request for a URL asks for. -/
def askedPath (url : Url) : List Char := url.target.toList.takeWhile (· != '?')

variable {url other : Url}

section

variable (canonical : url.IsCanonical)

include canonical

/-- What a request asks for is a path without a question mark, and the query behind one. -/
theorem toList_target :
    (url.target.toList = url.askedPath ++ url.query.elim [] fun q => '?' :: q.toList) ∧
      '?' ∉ url.askedPath ∧
      url.askedPath = if url.path = "" then ['/'] else url.path.toList := by
  have shown : url.target.toList = (if url.path = "" then ['/'] else url.path.toList) ++
      url.query.elim [] fun q => '?' :: q.toList := by
    rw [target, String.toList_append]
    congr 1
    · by_cases empty : url.path = "" <;> simp [empty]
    · cases url.query <;> simp [String.toList_append]
  have absent : '?' ∉ (if url.path = "" then ['/'] else url.path.toList) := by
    split
    · decide
    · exact fun member => question_ne_of_isPathChar (canonical.path _ member) rfl
  have kept : ∀ c ∈ (if url.path = "" then ['/'] else url.path.toList), (c != '?') = true := by
    intro c member
    simpa using fun same : c = '?' => absent (same ▸ member)
  have asked : url.askedPath = if url.path = "" then ['/'] else url.path.toList := by
    rw [askedPath, shown, List.takeWhile_append_of_pos kept]
    cases url.query <;> simp
  exact ⟨by rw [asked, shown], by rwa [asked], asked⟩

theorem cut?_query :
    Text.cut? '?' url.target.toList =
      url.query.map fun query => (url.askedPath, query.toList) := by
  obtain ⟨shown, absent, _⟩ := toList_target canonical
  rw [shown]
  cases url.query with
  | none =>
      rw [Option.elim_none, List.append_nil]
      exact Text.cut?_of_not_mem absent
  | some query => exact Text.cut?_append absent _

theorem query_eq_of_target (canonical' : other.IsCanonical) (same : other.target = url.target) :
    other.query = url.query := by
  have cut := cut?_query canonical
  rw [← same, cut?_query canonical'] at cut
  have chars := congrArg (Option.map Prod.snd) cut
  simp only [Option.map_map] at chars
  exact Option.map_injective (fun _ _ => String.toList_inj.mp) chars

/-- The text of a URL with the same path has the path that a request asks for, just if there is one
and the text cannot be taken for anything else. -/
theorem writtenPath_eq_askedPath_iff {signing : Url} (canonical' : signing.IsCanonical)
    (same : signing.path = url.path) :
    signing.writtenPath = url.askedPath ↔ url.path ≠ "" ∧ signing.IsPlain := by
  have asked := (toList_target canonical).2.2
  have written (plain : signing.IsPlain) : signing.writtenPath = url.path.toList := by
    rw [writtenPath, ofChars_text canonical' plain, same]
  have shorter (mistaken : ¬ signing.IsPlain) :
      signing.writtenPath.length < url.path.toList.length := by
    have lost := length_path_ofChars_text_lt canonical' mistaken
    rwa [same] at lost
  constructor
  · intro agree
    rw [asked] at agree
    have plain : signing.IsPlain := by
      by_contra mistaken
      have lost := shorter mistaken
      rw [agree] at lost
      split at lost
      · next empty => simp [empty] at lost
      · exact absurd lost (Nat.lt_irrefl _)
    refine ⟨fun empty => ?_, plain⟩
    rw [written plain, if_pos empty, empty] at agree
    cases agree
  · rintro ⟨some, plain⟩
    rw [written plain, asked, if_neg some]

end

end Url

open Http (Request Headers)

theorem HasPlace.injective {text : String → String} (held : HasPlace text) :
    Function.Injective text := by
  obtain ⟨before, after, around⟩ := held
  intro x y same
  rw [around, around, String.append_left_inj, String.append_right_inj] at same
  exact same

/-- Two requests that are sent alike. Their URLs may differ, and what they ask for does not. -/
structure Http.Request.SentAlike (request other : Request) : Prop where
  method : other.method = request.method
  target : other.url.target = request.url.target
  headers : other.headers = request.headers
  body : other.body = request.body

namespace Signing

open Url (IsDotName)

/-! ## Requests that are sent alike -/

section

variable {version : SignatureVersion} {clock : Calendar.Reading} {request other : Request}
  {signing signing' : Url} {draft : Draft}

theorem valuesUnder_host (hosted : request.headers.contains "host" = true) (stamp : String) :
    V4.valuesUnder "host" (V4.sourceLines request stamp) ≠ [] := by
  have small : Text.lower "host" = "host" := by decide
  have kept : (!SignatureVersion.v4.written.contains (Text.lower "host")) = true := by decide
  have name := Headers.contains_iff.mp hosted
  refine V4.valuesUnder_ne_nil.mpr
    ⟨("host", ", ".intercalate (request.headers.valuesOf "host")), ?_, small⟩
  refine List.mem_append_left _ (List.mem_filter.mpr ⟨?_, kept⟩)
  rw [Headers.merged_eq]
  exact List.mem_map.mpr ⟨"host", List.mem_eraseDups.mpr name, rfl⟩

theorem V4.exists_text_of_draft (hosted : request.headers.contains "host" = true)
    (drafted : V4.draft? clock request = .ok draft) :
    ∃ text, HasPlace text ∧ ∀ other, request.SentAlike other →
      other.url.writtenQuery = request.url.writtenQuery →
      V4.draft? clock other =
        .ok ⟨draft.date, draft.names, text (String.ofList other.url.writtenPath)⟩ := by
  have named := valuesUnder_host hosted
  unfold V4.draft? at drafted ⊢
  cases read : clock.instant? with
  | none => rw [read] at drafted; cases drafted
  | some instant =>
      rw [read] at drafted
      dsimp only at drafted
      rw [signedLines_of_host _ (named _)] at drafted
      obtain rfl := Except.ok.inj drafted
      let signed := lowered (sourceLines request instant.stamp)
      refine ⟨_, HasPlace.id.intercalate "\n" [Text.upper request.method]
        [canonicalQuery request.url.writtenQuery, canonicalHeaders signed ++ "\n",
          signedHeaders signed, payloadHash request], fun other alike query => ?_⟩
      have payload : payloadHash other = payloadHash request := by
        rw [payloadHash, payloadHash, alike.headers, alike.body]
      have lines : sourceLines other instant.stamp = sourceLines request instant.stamp := by
        rw [sourceLines, sourceLines, SignatureVersion.covered, SignatureVersion.covered,
          alike.headers, payload]
      dsimp only
      rw [lines, signedLines_of_host _ (named _), payload, alike.method, ← query]
      rfl

/-- The subresources as they follow the path. -/
def V2.shownSubresources (query : List Char) : String :=
  let parts := if query.isEmpty then [] else resourceParts query
  if parts.isEmpty then ""
  else "?" ++ "&".intercalate (parts.map fun (key, value) =>
    value.elim key fun value => key ++ "=" ++ value)

theorem V2.canonicalResource_eq (url : Url.Reference) :
    canonicalResource url = String.ofList url.path ++ shownSubresources url.query := rfl

theorem V2.exists_text_of_draft (made : signingUrl request.url = .ok signing)
    (drafted : V2.draft? clock request = .ok draft) :
    ∃ text, HasPlace text ∧ ∀ other signing', request.SentAlike other →
      signingUrl other.url = .ok signing' → signing'.writtenQuery = signing.writtenQuery →
      V2.draft? clock other =
        .ok ⟨draft.date, draft.names, text (String.ofList signing'.writtenPath)⟩ := by
  unfold V2.draft? at drafted ⊢
  rw [made] at drafted
  cases read : clock.instant? with
  | none => rw [read] at drafted; cases drafted
  | some instant =>
      rw [read] at drafted
      obtain rfl := Except.ok.inj drafted
      let covered := SignatureVersion.v2.covered request
      refine ⟨_,
        (HasPlace.id.append_right (shownSubresources signing.writtenQuery)).intercalate "\n"
          ([Text.upper request.method, standardValue covered "content-md5",
            standardValue covered "content-type", instant.headerDate] ++ customHeaders covered) [],
        fun other signing' alike made' query => ?_⟩
      have lines : SignatureVersion.v2.covered other = covered := by
        rw [SignatureVersion.covered, alike.headers]
        rfl
      rw [made']
      dsimp only
      rw [stringToSign, lines, alike.method, canonicalResource_eq, ← query]
      rfl

/-- A text that is signed has a place for the path. Beside that, of the URL it depends on the query
in the text that is signed; the newer version reads the host there as well if no header names it. -/
theorem exists_text_of_draft (hosted : version = .v4 → request.headers.contains "host" = true)
    (made : version.signedUrl? request.url = .ok signing)
    (drafted : draft? version clock request = .ok draft) :
    ∃ text, HasPlace text ∧ ∀ other signing', request.SentAlike other →
      version.signedUrl? other.url = .ok signing' → signing'.writtenQuery = signing.writtenQuery →
      draft? version clock other =
        .ok ⟨draft.date, draft.names, text (String.ofList signing'.writtenPath)⟩ := by
  cases version with
  | v4 =>
      cases made
      obtain ⟨text, place, others⟩ := V4.exists_text_of_draft (hosted rfl) drafted
      refine ⟨text, place, fun other signing' alike made' query => ?_⟩
      cases made'
      exact others other alike query
  | v2 => exact V2.exists_text_of_draft made drafted

theorem exists_signedUrl? (drafted : draft? version clock request = .ok draft) :
    ∃ signing, version.signedUrl? request.url = .ok signing := by
  cases version with
  | v4 => exact ⟨request.url, rfl⟩
  | v2 =>
      have drafted : V2.draft? clock request = .ok draft := drafted
      unfold V2.draft? at drafted
      cases made : V2.signingUrl request.url with
      | error error => rw [made] at drafted; cases drafted
      | ok signing => exact ⟨signing, made⟩

/-- Requests that are sent alike are drafted alike if both URLs have a path or none has, and only
then. -/
theorem draft_eq_iff {draft' : Draft} (alike : request.SentAlike other)
    (canonical : request.url.IsCanonical) (canonical' : other.url.IsCanonical)
    (hosted : version = .v4 → request.headers.contains "host" = true)
    (plain : ∀ signing, version.signedUrl? request.url = .ok signing → signing.IsPlain)
    (plain' : ∀ signing, version.signedUrl? other.url = .ok signing → signing.IsPlain)
    (drafted : draft? version clock request = .ok draft)
    (drafted' : draft? version clock other = .ok draft') :
    draft' = draft ↔ (other.url.path = "" ↔ request.url.path = "") := by
  obtain ⟨signing, made⟩ := exists_signedUrl? drafted
  obtain ⟨signing', made'⟩ := exists_signedUrl? drafted'
  have keeps := SignatureVersion.keeps_signedUrl? canonical made
  have keeps' := SignatureVersion.keeps_signedUrl? canonical' made'
  have written := Url.ofChars_text keeps.canonical (plain signing made)
  have written' := Url.ofChars_text keeps'.canonical (plain' signing' made')
  have query : signing'.writtenQuery = signing.writtenQuery := by
    rw [Url.writtenQuery, Url.writtenQuery, written, written', keeps.query, keeps'.query,
      Url.query_eq_of_target canonical canonical' alike.target]
  obtain ⟨text, place, others⟩ := exists_text_of_draft hosted made drafted
  have own := Except.ok.inj (drafted.symm.trans
    (others request signing ⟨rfl, rfl, rfl, rfl⟩ made rfl))
  have its := Except.ok.inj (drafted'.symm.trans (others other signing' alike made' query))
  have paths : String.ofList signing'.writtenPath = String.ofList signing.writtenPath ↔
      other.url.path = request.url.path := by
    rw [Url.writtenPath, Url.writtenPath, written, written', String.ofList_toList,
      String.ofList_toList, keeps.path, keeps'.path]
  have asked : other.url.askedPath = request.url.askedPath := by
    rw [Url.askedPath, Url.askedPath, alike.target]
  rw [(Url.toList_target canonical).2.2, (Url.toList_target canonical').2.2] at asked
  calc draft' = draft
      ↔ text (String.ofList signing'.writtenPath) = text (String.ofList signing.writtenPath) := by
        rw [its, Draft.ext_iff, congrArg Draft.text own]
        simp only [true_and]
    _ ↔ other.url.path = request.url.path := place.injective.eq_iff.trans paths
    _ ↔ (other.url.path = "" ↔ request.url.path = "") := by
        constructor
        · intro same
          rw [same]
        · intro both
          by_cases empty : request.url.path = ""
          · rw [both.mpr empty, empty]
          · rw [if_neg empty, if_neg (mt both.mp empty)] at asked
            exact String.toList_inj.mp asked

end

/-- Where the path that is signed is the one that is asked for. It is where the URL has a path and
the text that is signed cannot be taken for anything else; requests that are sent alike are then
signed alike. Of the location queries it holds for all buckets but those that are named like a dot
segment. -/
theorem signedPath_eq_askedPath (version : SignatureVersion) :
    (∀ url signing : Url, url.Arises → version.signedUrl? url = .ok signing →
      (signing.writtenPath = url.askedPath ↔ url.path ≠ "" ∧ signing.IsPlain)) ∧
    (∀ (task : Task) (request other : Request), task.signer.version = version →
      request.SentAlike other → request.url.Arises → other.url.Arises →
      (version = .v4 → request.headers.contains "host" = true) →
      (∀ signing, version.signedUrl? request.url = .ok signing → signing.IsPlain) →
      (∀ signing, version.signedUrl? other.url = .ok signing → signing.IsPlain) →
      (task.sign request).problem = none → (task.sign other).problem = none →
      (draft? version task.clock other = draft? version task.clock request ↔
        (other.url.path = "" ↔ request.url.path = "")) ∧
      ((other.url.path = "" ↔ request.url.path = "") →
        (task.sign other).request.headers.get? version.dateName =
            (task.sign request).request.headers.get? version.dateName ∧
          (task.sign other).request.headers.get? "authorization" =
            (task.sign request).request.headers.get? "authorization")) ∧
    ∀ (value : Value) (endpoint : Url) (bucket : String) (url signing : Url),
      Endpoint.parse value = .ok endpoint → Endpoint.locationUrl endpoint bucket = .ok url →
      version.signedUrl? url = .ok signing →
      (signing.writtenPath = url.askedPath ↔ ¬ IsDotName bucket) := by
  refine ⟨fun url signing arises made => ?_, ?_, ?_⟩
  · have keeps := SignatureVersion.keeps_signedUrl? arises.isCanonical made
    exact Url.writtenPath_eq_askedPath_iff arises.isCanonical keeps.canonical keeps.path
  · rintro task request other rfl alike arises arises' hosted plain plain' returned returned'
    obtain ⟨draft, _, drafted, _⟩ := Signer.draft_of_sign returned
    obtain ⟨draft', _, drafted', _⟩ := Signer.draft_of_sign returned'
    have same := draft_eq_iff alike arises.isCanonical arises'.isCanonical hosted plain plain'
      drafted drafted'
    refine ⟨?_, fun both => ?_⟩
    · rw [drafted, drafted', Except.ok.injEq]
      exact same
    · refine Task.signature_of_draft ?_ returned returned'
      rw [drafted, drafted', same.mpr both]
  · intro value endpoint bucket url signing accepted located made
    obtain ⟨arises, _, host⟩ := Endpoint.of_parse accepted
    have canonical := (arises.changed (by simp) located).isCanonical
    have keeps := SignatureVersion.keeps_signedUrl? canonical made
    have whole := Endpoint.locationUrl_eq accepted located
    have front : signing.hasAuthority = true := by
      have some : signing.host.toList.isEmpty = false := by
        rw [keeps.host, whole, Url.isEmpty_host_reviewed]
        simpa using host
      simp [Url.hasAuthority, some]
    have path : url.path = "" ↔ IsDotName bucket := by
      rw [whole]
      have some : Endpoint.bucketPath bucket ≠ "" := by
        simp [Endpoint.bucketPath]
      simp [some]
    rw [Url.writtenPath_eq_askedPath_iff canonical keeps.canonical keeps.path, ne_eq,
      path]
    exact and_iff_left ⟨.inl front, .inr (.inl front)⟩

end Signing

/-! ## A service without a path -/

namespace Sample

open Http (Request)

def service : Url := ⟨"https", "", "s3.amazonaws.com", none, "", none, none⟩

def serviceRoot : Url := { service with path := "/" }

/-- Another URL that asks for the same as that of the photos. -/
def photosPage : Url := { photosUrl with scheme := "http", fragment := some "top" }

def ask (url : Url) : Request := unsignedPayload url [("Host", "s3.amazonaws.com")]

end Sample

namespace Signing

open Sample

theorem signedPath_eq_askedPath_photos :
    (photosUrl.Arises ∧ photosPage.Arises ∧ (ask photosUrl).SentAlike (ask photosPage) ∧
      photosUrl.IsPlain ∧ photosPage.IsPlain ∧ (lastTask.sign (ask photosUrl)).problem = none ∧
      (lastTask.sign (ask photosPage)).problem = none) ∧
    photosUrl.writtenPath = photosUrl.askedPath ∧
    (lastTask.sign (ask photosPage)).request.headers.get? "authorization" =
      (lastTask.sign (ask photosUrl)).request.headers.get? "authorization" ∧
    ∃ url signing, Endpoint.parse (.text "https://s3.amazonaws.com") = .ok service ∧
      Endpoint.locationUrl service ".." = .ok url ∧
      SignatureVersion.v2.signedUrl? url = .ok signing ∧ signing.writtenPath ≠ url.askedPath := by
  have read : Url.parse "https://s3.amazonaws.com/photos" = .ok photosUrl :=
    toOption_eq_some.mp (by decide +kernel)
  have readPage : Url.parse "http://s3.amazonaws.com/films/../photos#top" = .ok photosPage :=
    toOption_eq_some.mp (by decide +kernel)
  have sent : (ask photosUrl).SentAlike (ask photosPage) := ⟨rfl, by decide +kernel, rfl, rfl⟩
  have plain : photosUrl.IsPlain := ⟨.inl (by decide +kernel), .inl (by decide +kernel)⟩
  have plainPage : photosPage.IsPlain := ⟨.inl (by decide +kernel), .inl (by decide +kernel)⟩
  have returned : (lastTask.sign (ask photosUrl)).problem = none := by decide +kernel
  have returnedPage : (lastTask.sign (ask photosPage)).problem = none := by decide +kernel
  have accepted : Endpoint.parse (.text "https://s3.amazonaws.com") = .ok service :=
    toOption_eq_some.mp (by decide +kernel)
  have located : Endpoint.locationUrl service ".." =
      .ok { service with query := some "location=" } := toOption_eq_some.mp (by decide +kernel)
  have signs : SignatureVersion.v2.signedUrl? { service with query := some "location=" } =
      .ok { service with query := some "location" } := toOption_eq_some.mp (by decide +kernel)
  obtain ⟨paths, alike, locations⟩ := signedPath_eq_askedPath .v2
  have same := (alike lastTask (ask photosUrl) (ask photosPage) rfl sent (.read read)
    (.read readPage) (fun newer => nomatch newer) (fun _ made => Except.ok.inj made ▸ plain)
    (fun _ made => Except.ok.inj made ▸ plainPage) returned returnedPage).2 (by decide)
  have apart := (locations _ _ _ _ _ accepted located signs).not.mpr (not_not.mpr (.inr rfl))
  exact ⟨⟨.read read, .read readPage, sent, plain, plainPage, returned, returnedPage⟩,
    (paths photosUrl photosUrl (.read read) rfl).mpr ⟨by decide, plain⟩, same.2, _, _, accepted,
    located, signs, apart⟩

/-- Without a path, the signature is not that of the slash that is asked for. -/
theorem service_signed_apart :
    (Url.parse "https://s3.amazonaws.com").toOption = some service ∧
      (Url.parse "https://s3.amazonaws.com/").toOption = some serviceRoot ∧
      service.target = serviceRoot.target ∧ service.writtenPath ≠ service.askedPath ∧
      (lastTask.sign (ask service)).problem = none ∧
      (lastTask.sign (ask service)).request.headers.get? "authorization" ≠
        (lastTask.sign (ask serviceRoot)).request.headers.get? "authorization" ∧
      ((draft? .v4 noon (ask service)).toOption.map (·.text)) ≠
        ((draft? .v4 noon (ask serviceRoot)).toOption.map (·.text)) := by
  decide +kernel

end Signing

end BucketRegion
