import BucketRegion.Proofs.Url.Canonical
import BucketRegion.Url.Reference

/-!
# Texts of URLs

The text of a URL in canonical form is cut where its components meet, unless its path can be taken
for something else: for an authority where it begins with two slashes and no authority stands in
front of it, or for a scheme where nothing stands in front of it. Then a part of the path is lost.
-/

set_option autoImplicit false

namespace BucketRegion.Url

namespace Reference

/-! ## Cutting texts -/

theorem cutAtMark_append {mark : Char} {before : List Char} (absent : mark ∉ before)
    (after : List Char) : cutAtMark mark (before ++ mark :: after) = (before, after) := by
  rw [cutAtMark, Text.cut?_append absent]
  rfl

theorem cutAtMark_of_not_mem {mark : Char} {cs : List Char} (absent : mark ∉ cs) :
    cutAtMark mark cs = (cs, []) := by
  rw [cutAtMark, Text.cut?_of_not_mem absent]
  rfl

theorem not_mem_cutAtMark (mark : Char) (cs : List Char) : mark ∉ (cutAtMark mark cs).1 := by
  rw [cutAtMark]
  cases cut : Text.cut? mark cs with
  | none => exact Text.not_mem_of_cut?_eq_none cut
  | some pair =>
      obtain ⟨before, after⟩ := pair
      exact (Text.cut?_eq_some cut).2

/-- A character that an authority ends at. -/
def endsAuthority (c : Char) : Bool := c == '/' || c == '?' || c == '#'

/-- The authority behind two slashes, and what follows it. -/
def cutNetloc (cs : List Char) : List Char × List Char :=
  match cs with
  | '/' :: '/' :: more =>
      (more.takeWhile (!endsAuthority ·), more.dropWhile (!endsAuthority ·))
  | _ => ([], cs)

theorem ofChars_eq (cs : List Char) :
    ofChars cs =
      { scheme := (cutScheme cs).1
        netloc := (cutNetloc (cutScheme cs).2).1
        path := (cutAtMark '?' (cutAtMark '#' (cutNetloc (cutScheme cs).2).2).1).1
        query := (cutAtMark '?' (cutAtMark '#' (cutNetloc (cutScheme cs).2).2).1).2
        fragment := (cutAtMark '#' (cutNetloc (cutScheme cs).2).2).2 } := rfl

section

variable {path tail : List Char}

theorem cutNetloc_authority {authority rest : List Char}
    (uncut : ∀ c ∈ authority, endsAuthority c = false)
    (ended : ∀ c ∈ rest.head?, endsAuthority c = true) :
    cutNetloc ('/' :: '/' :: (authority ++ rest)) = (authority, rest) := by
  have kept : ∀ c ∈ authority, (!endsAuthority c) = true := fun c member => by simp [uncut c member]
  have stops : rest.takeWhile (!endsAuthority ·) = [] ∧
      rest.dropWhile (!endsAuthority ·) = rest := by
    cases rest with
    | nil => exact ⟨rfl, rfl⟩
    | cons c rest => simp [ended c rfl]
  rw [cutNetloc, List.takeWhile_append_of_pos kept, List.dropWhile_append_of_pos kept, stops.1,
    stops.2, List.append_nil]

theorem cutNetloc_of_unmarked {cs : List Char} (unmarked : cs.take 2 ≠ ['/', '/']) :
    cutNetloc cs = ([], cs) := by
  unfold cutNetloc
  split
  · exact absurd rfl unmarked
  · rfl

/-- Behind a path, what ends an authority ends the path as well. -/
theorem take_append_of_tail (ended : ∀ c ∈ tail.head?, c = '?' ∨ c = '#')
    (unmarked : path.take 2 ≠ ['/', '/']) : (path ++ tail).take 2 ≠ ['/', '/'] := by
  match path, tail with
  | _ :: _ :: _, _ => simpa using unmarked
  | [_], [] => simp
  | [_], c :: _ =>
      rcases ended c rfl with rfl | rfl <;> simp
  | [], [] => simp
  | [], c :: _ =>
      rcases ended c rfl with rfl | rfl <;> simp

/-- A path is cut in the same way whatever follows it. -/
theorem cutNetloc_append (path : List Char) (ended : ∀ c ∈ tail.head?, c = '?' ∨ c = '#') :
    cutNetloc (path ++ tail) = ((cutNetloc path).1, (cutNetloc path).2 ++ tail) := by
  by_cases marked : path.take 2 = ['/', '/']
  · obtain ⟨more, rfl⟩ : ∃ more, path = '/' :: '/' :: more :=
      ⟨path.drop 2, by rw [← List.take_append_drop 2 path, marked]; rfl⟩
    have stops : tail.takeWhile (!endsAuthority ·) = [] ∧
        tail.dropWhile (!endsAuthority ·) = tail := by
      cases tail with
      | nil => exact ⟨rfl, rfl⟩
      | cons c tail =>
          rcases ended c rfl with rfl | rfl
          · exact ⟨rfl, rfl⟩
          · exact ⟨rfl, rfl⟩
    have front : (more ++ tail).takeWhile (!endsAuthority ·) =
        more.takeWhile (!endsAuthority ·) := by
      rw [List.takeWhile_append, stops.1]
      split
      · next whole =>
          rw [List.append_nil]
          exact ((List.takeWhile_prefix _).eq_of_length whole).symm
      · rfl
    have rest : (more ++ tail).dropWhile (!endsAuthority ·) =
        more.dropWhile (!endsAuthority ·) ++ tail := by
      rw [List.dropWhile_append, stops.2]
      split
      · next none => rw [List.isEmpty_iff.mp none, List.nil_append]
      · rfl
    rw [List.cons_append, List.cons_append, cutNetloc, cutNetloc, front, rest]
  · rw [cutNetloc_of_unmarked (take_append_of_tail ended marked), cutNetloc_of_unmarked marked]

/-- Two slashes in front of a path are lost when they are taken for the mark of an authority. -/
theorem suffix_cutNetloc (path : List Char) :
    (cutNetloc path).2 <:+ path ∧
      (path.take 2 = ['/', '/'] → (cutNetloc path).2.length < path.length) := by
  unfold cutNetloc
  split
  · next more =>
      have suffix := List.dropWhile_suffix (fun c => !endsAuthority c) (l := more)
      refine ⟨suffix.trans ⟨['/', '/'], rfl⟩, fun _ => ?_⟩
      have shorter := suffix.length_le
      simp only [List.length_cons]
      omega
  · next unmarked =>
      refine ⟨List.suffix_rfl, fun marked => ?_⟩
      exact absurd (by rw [← List.take_append_drop 2 path, marked]; rfl) (unmarked (path.drop 2))

end

/-! ## Schemes -/

/-- Either no scheme is found, or one is cut off with its colon. -/
theorem cutScheme_cases (cs : List Char) :
    cutScheme cs = ([], cs) ∨
      ∃ name rest, cs = name ++ ':' :: rest ∧ name ≠ [] ∧ (∀ c ∈ name, isSchemeChar c = true) ∧
        cutScheme cs = (name.map Char.toLower, rest) := by
  unfold cutScheme
  split
  · next first more rest cut =>
      split
      · next plain =>
          refine .inr ⟨first :: more, rest, (Text.cut?_eq_some cut).1, List.cons_ne_nil _ _, ?_, rfl⟩
          simp only [Bool.and_eq_true, List.all_eq_true] at plain
          intro c member
          rcases List.mem_cons.mp member with rfl | later
          · simp [isSchemeChar, Char.isAlphanum, plain.1]
          · have letter := plain.2 c later
            simp only [Bool.or_eq_true] at letter
            simp only [isSchemeChar, Bool.or_eq_true]
            tauto
      · exact .inl rfl
  · exact .inl rfl

theorem cutScheme_of_nil {cs : List Char} (schemeless : (cutScheme cs).1 = []) :
    cutScheme cs = ([], cs) := by
  rcases cutScheme_cases cs with none | ⟨name, rest, _, some, _, cut⟩
  · exact none
  · rw [cut] at schemeless
    exact absurd (List.map_eq_nil_iff.mp schemeless) some

theorem cutScheme_scheme {name : List Char} (some : name ≠ [])
    (letters : ∀ c ∈ name, isSchemeChar c = true) (first : ∀ c ∈ name.head?, c.isAlpha = true)
    (rest : List Char) : cutScheme (name ++ ':' :: rest) = (name.map Char.toLower, rest) := by
  have absent : ':' ∉ name := fun member => absurd (letters _ member) (by decide)
  obtain ⟨c, more, rfl⟩ := List.exists_cons_of_ne_nil some
  rw [cutScheme, Text.cut?_append absent]
  have plain : (c.isAlpha && more.all fun c => c.isAlphanum || c == '+' || c == '-' || c == '.') =
      true := by
    rw [Bool.and_eq_true, List.all_eq_true]
    refine ⟨first c rfl, fun d member => ?_⟩
    have letter := letters d (List.mem_cons_of_mem _ member)
    simp only [isSchemeChar, Bool.or_eq_true] at letter
    simp only [Bool.or_eq_true]
    tauto
  exact if_pos plain

theorem cutScheme_slash (rest : List Char) : cutScheme ('/' :: rest) = ([], '/' :: rest) := by
  rcases cutScheme_cases ('/' :: rest) with none | ⟨name, later, whole, _, letters, _⟩
  · exact none
  · cases name with
    | nil => cases whole
    | cons c name =>
        rw [List.cons_append] at whole
        rw [← (List.cons.inj whole).1] at letters
        exact absurd (letters '/' List.mem_cons_self) (by decide)

/-- A scheme is found in a path, or nowhere. -/
theorem cutScheme_append {path tail : List Char}
    (ended : ∀ c ∈ tail.head?, c = '?' ∨ c = '#') :
    cutScheme (path ++ tail) = ((cutScheme path).1, (cutScheme path).2 ++ tail) := by
  cases cut : Text.cut? ':' path with
  | some pair =>
      obtain ⟨before, rest⟩ := pair
      obtain ⟨rfl, absent⟩ := Text.cut?_eq_some cut
      have longer : Text.cut? ':' (before ++ ':' :: rest ++ tail) = some (before, rest ++ tail) := by
        rw [List.append_assoc]
        exact Text.cut?_append absent _
      unfold cutScheme
      rw [longer, cut]
      cases before with
      | nil => rfl
      | cons first more =>
          dsimp only
          split <;> rfl
  | none =>
      have absent := Text.not_mem_of_cut?_eq_none cut
      have alone : cutScheme path = ([], path) := by rw [cutScheme, cut]
      rw [alone]
      rcases cutScheme_cases (path ++ tail) with none | ⟨name, later, whole, _, letters, _⟩
      · exact none
      -- The colon stands behind a mark that no scheme holds.
      · rcases List.append_eq_append_iff.mp whole with ⟨more, rfl, rest⟩ | ⟨more, rfl, rest⟩
        · cases more with
          | nil =>
              rcases ended ':' (by rw [rest]; rfl) with same | same <;>
                exact absurd same (by decide)
          | cons c more =>
              have letter := letters c (by simp)
              rcases ended c (by rw [rest]; rfl) with rfl | rfl <;>
                exact absurd letter (by decide)
        · cases more with
          | nil =>
              rcases ended ':' (by rw [← List.nil_append tail, ← rest]; rfl) with same | same <;>
                exact absurd same (by decide)
          | cons c more =>
              obtain rfl : ':' = c := (List.cons.inj rest).1
              exact absurd (by simp) absent

theorem suffix_cutScheme (cs : List Char) : (cutScheme cs).2 <:+ cs := by
  rcases cutScheme_cases cs with none | ⟨name, rest, whole, _, _, cut⟩
  · rw [none]
  · rw [cut, whole]
    exact ⟨name ++ [':'], by simp⟩

theorem length_cutScheme_lt {cs : List Char} (found : (cutScheme cs).1 ≠ []) :
    (cutScheme cs).2.length < cs.length := by
  rcases cutScheme_cases cs with none | ⟨name, rest, whole, _, _, cut⟩
  · rw [none] at found
    exact absurd rfl found
  · rw [cut, whole]
    simp only [List.length_append, List.length_cons]
    omega

end Reference

/-! ## The text of a URL -/

variable {url : Url}

/-- What follows the path of a URL. -/
def tail (url : Url) : List Char :=
  (url.query.elim [] fun q => '?' :: q.toList) ++ url.fragment.elim [] fun f => '#' :: f.toList

theorem ended_tail (url : Url) : ∀ c ∈ url.tail.head?, c = '?' ∨ c = '#' := by
  rw [tail]
  cases url.query <;> cases url.fragment <;> simp

theorem authority_eq_empty_iff : url.authority = "" ↔ url.hasAuthority = false := by
  rw [← String.toList_eq_nil_iff, Url.authority, String.toList_append, toList_netloc]
  have host : url.shownHost = [] ↔ url.host.toList = [] := by
    rw [shownHost]
    split
    · next colon =>
        cases shown : url.host.toList with
        | nil => rw [shown] at colon; cases colon
        | cons => simp
    · rfl
  have port : url.portPart = [] ↔ url.port = none := by
    rw [portPart]
    cases url.port <;> simp
  simp [hasAuthority, host, port, and_assoc]

theorem toList_text (url : Url) :
    url.text.toList = (if url.hasScheme then url.scheme.toList ++ [':'] else []) ++
      ((if url.hasAuthority then '/' :: '/' :: url.authority.toList else []) ++
        (url.path.toList ++ url.tail)) := by
  have scheme : (if url.scheme == "" then "" else url.scheme ++ ":").toList =
      if url.hasScheme then url.scheme.toList ++ [':'] else [] := by
    rw [hasScheme]
    by_cases empty : url.scheme = ""
    · simp [empty]
    · simp [empty, String.toList_append]
  have authority : (if url.authority == "" then "" else "//" ++ url.authority).toList =
      if url.hasAuthority then '/' :: '/' :: url.authority.toList else [] := by
    cases shown : url.hasAuthority with
    | false => simp [authority_eq_empty_iff.mpr shown]
    | true =>
        have some : url.authority ≠ "" := by
          rw [ne_eq, authority_eq_empty_iff, shown]
          decide
        simp [some, String.toList_append]
  have query : (url.query.elim "" fun q => "?" ++ q).toList =
      url.query.elim [] fun q => '?' :: q.toList := by
    cases url.query <;> simp [String.toList_append]
  have fragment : (url.fragment.elim "" fun f => "#" ++ f).toList =
      url.fragment.elim [] fun f => '#' :: f.toList := by
    cases url.fragment <;> simp [String.toList_append]
  rw [text, String.toList_append, String.toList_append, String.toList_append,
    String.toList_append, scheme, authority, query, fragment, tail]
  simp only [List.append_assoc]

/-- The path of a URL is not taken for anything else when its text is read. -/
structure IsPlain (url : Url) : Prop where
  unmarked : url.hasAuthority = true ∨ url.path.toList.take 2 ≠ ['/', '/']
  schemeless : url.hasScheme = true ∨ url.hasAuthority = true ∨
    (Reference.cutScheme url.path.toList).1 = []

/-- The path that is left of a text when its front is cut off, and what of the path is taken for
that. -/
def leftPath (url : Url) : List Char :=
  if url.hasAuthority then url.path.toList
  else (Reference.cutNetloc (if url.hasScheme then url.path.toList
    else (Reference.cutScheme url.path.toList).2)).2

theorem suffix_leftPath (url : Url) : url.leftPath <:+ url.path.toList := by
  rw [leftPath]
  split
  · exact List.suffix_rfl
  · refine (Reference.suffix_cutNetloc _).1.trans ?_
    split
    · exact List.suffix_rfl
    · exact Reference.suffix_cutScheme _

section

open Reference

variable (canonical : url.IsCanonical)

include canonical

theorem cutAtMark_tail {path : List Char} (plain : ∀ c ∈ path, isPathChar c = true) :
    cutAtMark '#' (path ++ url.tail) =
      (path ++ url.query.elim [] fun q => '?' :: q.toList, (url.fragment.getD "").toList) := by
  have absent : '#' ∉ path ++ url.query.elim [] fun q => '?' :: q.toList := by
    rw [List.mem_append, not_or]
    constructor
    · exact fun member => hash_ne_of_isQueryChar (isQueryChar_of_isPathChar (plain _ member)) rfl
    · cases asked : url.query with
      | none => simp
      | some query =>
          intro member
          rcases List.mem_cons.mp member with mark | within
          · exact absurd mark (by decide)
          · exact hash_ne_of_isQueryChar (canonical.query query asked _ within) rfl
  rw [tail, ← List.append_assoc]
  cases url.fragment with
  | none =>
      rw [Option.elim_none, List.append_nil]
      exact cutAtMark_of_not_mem absent
  | some fragment => exact cutAtMark_append absent _

theorem path_query_of_tail {path : List Char} (plain : ∀ c ∈ path, isPathChar c = true) :
    cutAtMark '?' (cutAtMark '#' (path ++ url.tail)).1 = (path, (url.query.getD "").toList) := by
  have absent : '?' ∉ path := fun member => question_ne_of_isPathChar (plain _ member) rfl
  rw [cutAtMark_tail canonical plain]
  cases url.query with
  | none =>
      rw [Option.elim_none, List.append_nil]
      exact cutAtMark_of_not_mem absent
  | some query => exact cutAtMark_append absent _

theorem cutScheme_text (scheme : url.hasScheme = true) (rest : List Char) :
    cutScheme (url.scheme.toList ++ [':'] ++ rest) = (url.scheme.toList, rest) := by
  have some : url.scheme.toList ≠ [] := by simpa [hasScheme] using scheme
  rw [List.append_assoc, List.singleton_append,
    cutScheme_scheme some (fun c member => (canonical.scheme c member).1) canonical.letter,
    List.map_congr_left (g := id) fun c member => (canonical.scheme c member).2, List.map_id]

/-- The scheme of a text, and what follows it. -/
theorem cutScheme_of_fronted (fronted : (url.hasScheme || url.hasAuthority) = true) :
    cutScheme url.text.toList = (url.scheme.toList,
      (if url.hasAuthority then '/' :: '/' :: url.authority.toList else []) ++
        (url.path.toList ++ url.tail)) := by
  rw [toList_text]
  cases scheme : url.hasScheme with
  | true => exact cutScheme_text canonical scheme _
  | false =>
      rw [scheme, Bool.false_or] at fronted
      have empty : url.scheme.toList = [] := by simpa [hasScheme] using scheme
      rw [if_neg (by decide), fronted, if_pos rfl, empty]
      exact cutScheme_slash _

theorem cutNetloc_text (front : url.hasAuthority = true) :
    cutNetloc ('/' :: '/' :: (url.authority.toList ++ (url.path.toList ++ url.tail))) =
      (url.authority.toList, url.path.toList ++ url.tail) := by
  refine cutNetloc_authority (fun c member => ?_) fun c first => ?_
  · rcases uncut_of_mem_authority canonical member with rfl | uncut
    · decide
    · simp only [isCut, Bool.or_eq_false_iff] at uncut
      simp [endsAuthority, uncut]
  · rcases (checkPath_eq_ok.mp canonical.fits).1 front with none | ⟨rest, rooted⟩
    · rw [none, List.nil_append] at first
      rcases ended_tail url c first with rfl | rfl <;> rfl
    · rw [rooted] at first
      cases first
      rfl

/-- The text of a URL is cut where its components meet. -/
theorem ofChars_text (plain : url.IsPlain) :
    Reference.ofChars url.text.toList =
      ⟨url.scheme.toList, url.authority.toList, url.path.toList, (url.query.getD "").toList,
        (url.fragment.getD "").toList⟩ := by
  have ended := ended_tail url
  have scheme : cutScheme url.text.toList = (url.scheme.toList,
      (if url.hasAuthority then '/' :: '/' :: url.authority.toList else []) ++
        (url.path.toList ++ url.tail)) := by
    cases fronted : url.hasScheme || url.hasAuthority with
    | true => exact cutScheme_of_fronted canonical fronted
    | false =>
        obtain ⟨schemeless, bare⟩ := Bool.or_eq_false_iff.mp fronted
        have empty : url.scheme.toList = [] := by simpa [hasScheme] using schemeless
        have none : (cutScheme url.path.toList).1 = [] := by
          simpa [schemeless, bare] using plain.schemeless
        rw [toList_text, schemeless, bare, empty]
        simp only [Bool.false_eq_true, if_false, List.nil_append]
        rw [cutScheme_append ended, cutScheme_of_nil none]
  have netloc : cutNetloc (cutScheme url.text.toList).2 =
      (url.authority.toList, url.path.toList ++ url.tail) := by
    rw [scheme]
    cases front : url.hasAuthority with
    | true => exact cutNetloc_text canonical front
    | false =>
        have unmarked : url.path.toList.take 2 ≠ ['/', '/'] := by
          simpa [front] using plain.unmarked
        rw [authority_eq_empty_iff.mpr front, if_neg Bool.false_ne_true, List.nil_append]
        exact cutNetloc_of_unmarked (take_append_of_tail ended unmarked)
  rw [ofChars_eq, netloc, scheme, path_query_of_tail canonical canonical.path,
    cutAtMark_tail canonical canonical.path]

theorem path_query_ofChars_text :
    (Reference.ofChars url.text.toList).path = url.leftPath ∧
      (Reference.ofChars url.text.toList).query = (url.query.getD "").toList := by
  have ended := ended_tail url
  have left : (cutNetloc (cutScheme url.text.toList).2).2 = url.leftPath ++ url.tail := by
    rw [leftPath]
    cases front : url.hasAuthority with
    | true =>
        rw [cutScheme_of_fronted canonical (by rw [front, Bool.or_true]), front, if_pos rfl]
        exact congrArg Prod.snd (cutNetloc_text canonical front)
    | false =>
        cases scheme : url.hasScheme with
        | true =>
            rw [cutScheme_of_fronted canonical (by rw [scheme, Bool.true_or]), front]
            exact congrArg Prod.snd (cutNetloc_append url.path.toList ended)
        | false =>
            rw [toList_text, scheme, front]
            simp only [Bool.false_eq_true, if_false, List.nil_append]
            rw [cutScheme_append ended, cutNetloc_append _ ended]
  have cut := path_query_of_tail canonical fun c member =>
    canonical.path c ((suffix_leftPath url).mem member)
  rw [ofChars_eq, left]
  exact ⟨congrArg Prod.fst cut, congrArg Prod.snd cut⟩

/-- Of a path that is taken for something else a part is lost. -/
theorem length_path_ofChars_text_lt (mistaken : ¬ url.IsPlain) :
    (Reference.ofChars url.text.toList).path.length < url.path.toList.length := by
  have bare : url.hasAuthority = false := by
    by_contra front
    have front : url.hasAuthority = true := by simpa using front
    exact mistaken ⟨.inl front, .inr (.inl front)⟩
  rw [(path_query_ofChars_text canonical).1, leftPath, bare]
  cases scheme : url.hasScheme with
  | true =>
      refine (suffix_cutNetloc url.path.toList).2 ?_
      by_contra unmarked
      exact mistaken ⟨.inr unmarked, .inl scheme⟩
  | false =>
      have unmarked := ((checkPath_eq_ok.mp canonical.fits).2 scheme bare).1
      have found : (cutScheme url.path.toList).1 ≠ [] := fun none =>
        mistaken ⟨.inr unmarked, .inr (.inr none)⟩
      have first := (suffix_cutNetloc (cutScheme url.path.toList).2).1.length_le
      have second := length_cutScheme_lt found
      exact Nat.lt_of_le_of_lt first second

end

end BucketRegion.Url
