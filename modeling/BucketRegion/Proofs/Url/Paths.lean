import Mathlib.Data.List.Basic
import BucketRegion.Proofs.Text.Split
import BucketRegion.Proofs.Url.Authority

/-!
# Paths

Leaving out dot segments gives a path without any, and keeps a path rooted or makes it empty.
Quoting goes segment by segment: it makes no slashes and no dot segments.
-/

set_option autoImplicit false

namespace BucketRegion.Text

variable {α : Type}

theorem joinWith_cons {parts : List (List α)} (some : parts ≠ []) (seps part : List α) :
    joinWith seps (part :: parts) = part ++ seps ++ joinWith seps parts := by
  rw [joinWith_eq, joinWith_eq, List.intercalate_cons_of_ne_nil some]

theorem flatMap_joinWith {β : Type} (f : α → List β) (sep : α) (parts : List (List α)) :
    (joinWith [sep] parts).flatMap f = joinWith (f sep) (parts.map (List.flatMap f)) := by
  fun_induction joinWith [sep] parts with
  | case1 => rfl
  | case2 part => rfl
  | case3 part parts nonempty ih =>
      rw [List.map_cons, joinWith_cons (by simpa using nonempty), ← ih]
      simp

end BucketRegion.Text

namespace BucketRegion.Url

open Text (splitOn joinWith)

/-! ## Quoting by characters -/

section Quoting

variable {safe : Char → Bool}

/-- Where encoded octets consist of safe characters, quoting is done character by character. -/
theorem requote_eq_encodeUnsafe (percent : safe '%' = true)
    (hex : ∀ c, isHexDigit c = true → safe c = true) (cs : List Char) :
    requote safe cs = encodeUnsafe safe cs := by
  fun_induction requote safe cs with
  | case1 a b rest digits ih =>
      obtain ⟨first, second⟩ := Bool.and_eq_true_iff.mp digits
      simp [encodeUnsafe, percent, hex a first, hex b second, ih]
  | case2 a b rest plain ih => rw [ih]; rfl
  | case3 c rest apart ih => rw [ih]; rfl
  | case4 => rfl

theorem percentChar_eq_cons (c : Char) : ∃ octets, percentChar c = '%' :: octets := by
  unfold percentChar Utf8.encodeChar
  dsimp only
  split
  · exact ⟨_, rfl⟩
  · split
    · exact ⟨_, rfl⟩
    · split <;> exact ⟨_, rfl⟩

theorem of_mem_percentChar {p : Char → Prop} (percent : p '%')
    (digits : ∀ n < 16, p (Text.hexDigitUpper n)) {c d : Char} (member : d ∈ percentChar c) :
    p d := by
  obtain ⟨octet, _, among⟩ := List.mem_flatMap.mp member
  have small : octet.toNat < 256 := octet.toNat_lt
  simp only [percentOctet, List.mem_cons, List.not_mem_nil, or_false] at among
  rcases among with rfl | rfl | rfl
  · exact percent
  · exact digits _ (by omega)
  · exact digits _ (Nat.mod_lt _ (by decide))

/-- A character that quoting never makes stands in the text itself. -/
theorem encodeUnsafe_eq_cons {cs rest : List Char} {d : Char}
    (quoted : encodeUnsafe safe cs = d :: rest) (plain : d ≠ '%') :
    ∃ later, cs = d :: later ∧ rest = encodeUnsafe safe later := by
  cases cs with
  | nil => cases quoted
  | cons c later =>
      rw [encodeUnsafe, List.flatMap_cons] at quoted
      split at quoted
      · obtain ⟨rfl, same⟩ := List.cons.inj quoted
        exact ⟨later, rfl, same.symm⟩
      · obtain ⟨octets, shown⟩ := percentChar_eq_cons c
        rw [shown] at quoted
        exact absurd (List.cons.inj quoted).1.symm plain

theorem eq_of_encodeUnsafe_eq {cs plain : List Char} (quoted : encodeUnsafe safe cs = plain)
    (absent : '%' ∉ plain) : cs = plain := by
  induction plain generalizing cs with
  | nil =>
      cases cs with
      | nil => rfl
      | cons c later =>
          rw [encodeUnsafe, List.flatMap_cons] at quoted
          split at quoted
          · cases quoted
          · obtain ⟨octets, shown⟩ := percentChar_eq_cons c
            rw [shown] at quoted
            cases quoted
  | cons d rest ih =>
      obtain ⟨different, absent⟩ := not_or.mp fun among => absent (List.mem_cons.mpr among)
      obtain ⟨later, rfl, same⟩ := encodeUnsafe_eq_cons quoted (Ne.symm different)
      rw [ih same.symm absent]

/-- What quoting gives stands in the text, or is part of an encoded octet. -/
theorem of_mem_encodeUnsafe {p : Char → Prop} (percent : p '%')
    (digits : ∀ n < 16, p (Text.hexDigitUpper n)) {cs : List Char} {d : Char}
    (member : d ∈ encodeUnsafe safe cs) : d ∈ cs ∧ safe d = true ∨ p d := by
  obtain ⟨c, among, within⟩ := List.mem_flatMap.mp member
  split at within
  · next plain =>
      rw [List.mem_singleton.mp within]
      exact .inl ⟨among, plain⟩
  · exact .inr (of_mem_percentChar percent digits within)

theorem slash_not_mem_encodeUnsafe {cs : List Char} (absent : '/' ∈ cs → safe '/' = false) :
    '/' ∉ encodeUnsafe safe cs := by
  intro member
  rcases of_mem_encodeUnsafe (p := fun d => d ≠ '/') (by decide) (by decide) member with
    ⟨among, plain⟩ | other
  · rw [absent among] at plain
    cases plain
  · exact other rfl

/-- Quoting keeps the segments apart and quotes each of them. -/
theorem splitOn_encodeUnsafe (slash : safe '/' = true) (path : List Char) :
    splitOn '/' (encodeUnsafe safe path) = (splitOn '/' path).map (encodeUnsafe safe) := by
  have one : (if safe '/' then ['/'] else percentChar '/') = ['/'] := if_pos slash
  calc splitOn '/' (encodeUnsafe safe path)
      = splitOn '/' (encodeUnsafe safe (joinWith ['/'] (splitOn '/' path))) := by
        rw [Text.joinWith_splitOn]
    _ = splitOn '/' (joinWith ['/'] ((splitOn '/' path).map (encodeUnsafe safe))) := by
        rw [encodeUnsafe, Text.flatMap_joinWith, one]
        rfl
    _ = (splitOn '/' path).map (encodeUnsafe safe) := by
        refine Text.splitOn_joinWith (fun part member => ?_) (by simp [Text.splitOn_ne_nil])
        obtain ⟨segment, among, rfl⟩ := List.mem_map.mp member
        exact slash_not_mem_encodeUnsafe fun mark =>
          absurd mark (Text.not_mem_of_mem_splitOn among)

end Quoting

/-! ## Dot segments -/

/-- A segment that is left out of a path, with the one before it or alone. -/
def IsDots (segment : List Char) : Prop := segment = ['.'] ∨ segment = ['.', '.']

theorem dropDots_of_undotted {path : List Char}
    (undotted : ∀ segment ∈ splitOn '/' path, ¬ IsDots segment) : dropDots path = path := by
  unfold dropDots
  dsimp only
  refine if_neg fun dotted => ?_
  rw [Bool.or_eq_true, List.contains_iff_mem, List.contains_iff_mem] at dotted
  rcases dotted with one | two
  · exact undotted _ one (.inl rfl)
  · exact undotted _ two (.inr rfl)

theorem mem_passSegment {kept : List (List Char)} {segment part : List Char}
    (member : part ∈ passSegment kept segment) :
    part ∈ kept ∨ part = segment ∧ ¬ IsDots segment := by
  unfold passSegment at member
  split at member
  · exact .inl member
  · next one =>
      split at member
      · split at member
        · exact .inl member
        · exact .inl (List.mem_of_mem_drop member)
      · next two =>
          rcases List.mem_cons.mp member with rfl | earlier
          · refine .inr ⟨rfl, ?_⟩
            rintro (rfl | rfl)
            · exact one (by simp)
            · exact two (by simp)
          · exact .inl earlier

theorem mem_foldl_passSegment {segments kept : List (List Char)} {part : List Char}
    (member : part ∈ segments.foldl passSegment kept) :
    part ∈ kept ∨ part ∈ segments ∧ ¬ IsDots part := by
  induction segments generalizing kept with
  | nil => exact .inl member
  | cons segment segments ih =>
      rcases ih member with passed | ⟨later, plain⟩
      · rcases mem_passSegment passed with earlier | ⟨rfl, plain⟩
        · exact .inl earlier
        · exact .inr ⟨List.mem_cons_self, plain⟩
      · exact .inr ⟨List.mem_cons_of_mem _ later, plain⟩

/-- No dot segments are left, and no other segments come in. -/
theorem mem_splitOn_dropDots {path part : List Char}
    (member : part ∈ splitOn '/' (dropDots path)) :
    ¬ IsDots part ∧ (part ∈ splitOn '/' path ∨ part = []) := by
  unfold dropDots at member
  dsimp only at member
  split at member
  · have parts : ∀ part ∈ ((splitOn '/' path).foldl passSegment []).reverse,
        part ∈ splitOn '/' path ∧ ¬ IsDots part := by
      intro part among
      rcases mem_foldl_passSegment (List.mem_reverse.mp among) with none | found
      · cases none
      · exact found
    cases empty : ((splitOn '/' path).foldl passSegment []).reverse with
    | nil =>
        rw [empty] at member
        rw [List.mem_singleton.mp member]
        exact ⟨by simp [IsDots], .inr rfl⟩
    | cons first rest =>
        rw [Text.splitOn_joinWith (fun part among => Text.not_mem_of_mem_splitOn
          (parts part among).1) (by simp [empty])] at member
        exact ⟨(parts part member).2, .inl (parts part member).1⟩
  · next undotted =>
      rw [Bool.or_eq_true, List.contains_iff_mem, List.contains_iff_mem, not_or] at undotted
      refine ⟨?_, .inl member⟩
      rintro (rfl | rfl)
      · exact undotted.1 member
      · exact undotted.2 member

/-- Quoting makes no dot segments. -/
theorem dropDots_encodeUnsafe {safe : Char → Bool} (slash : safe '/' = true) {path : List Char}
    (undotted : ∀ segment ∈ splitOn '/' path, ¬ IsDots segment) :
    dropDots (encodeUnsafe safe path) = encodeUnsafe safe path := by
  refine dropDots_of_undotted fun part member dots => ?_
  rw [splitOn_encodeUnsafe slash] at member
  obtain ⟨segment, among, quoted⟩ := List.mem_map.mp member
  refine undotted segment among ?_
  rcases dots with rfl | rfl
  · exact .inl (eq_of_encodeUnsafe_eq quoted (by decide))
  · exact .inr (eq_of_encodeUnsafe_eq quoted (by decide))

/-! ## Rooted paths -/

/-- Empty, or with a slash in front: a path that can follow an authority. -/
def IsRooted (path : List Char) : Prop := path = [] ∨ ∃ rest, path = '/' :: rest

/-- The segment in front of the first slash stays. -/
theorem exists_foldl_passSegment (segments kept : List (List Char)) :
    ∃ later, segments.foldl passSegment (kept ++ [[]]) = later ++ [[]] := by
  induction segments generalizing kept with
  | nil => exact ⟨kept, rfl⟩
  | cons segment segments ih =>
      have passed : ∃ later, passSegment (kept ++ [[]]) segment = later ++ [[]] := by
        unfold passSegment
        split
        · exact ⟨kept, rfl⟩
        · split
          · cases kept with
            | nil => exact ⟨[], rfl⟩
            | cons last kept =>
                rw [if_neg (by simp)]
                exact ⟨kept, rfl⟩
          · exact ⟨segment :: kept, rfl⟩
      obtain ⟨later, shown⟩ := passed
      rw [List.foldl_cons, shown]
      exact ih later

theorem isRooted_dropDots {path : List Char} (rooted : IsRooted path) :
    IsRooted (dropDots path) := by
  unfold dropDots
  dsimp only
  split
  · rcases rooted with rfl | ⟨rest, rfl⟩
    · exact .inl rfl
    · obtain ⟨later, shown⟩ := exists_foldl_passSegment (splitOn '/' rest) []
      have front : (splitOn '/' ('/' :: rest)).foldl passSegment [] = later ++ [[]] := shown
      rw [front, List.reverse_append]
      cases later.reverse with
      | nil => exact .inl rfl
      | cons first more => exact .inr ⟨_, rfl⟩
  · exact rooted

theorem isRooted_encodeUnsafe {safe : Char → Bool} (slash : safe '/' = true) {path : List Char}
    (rooted : IsRooted path) : IsRooted (encodeUnsafe safe path) := by
  rcases rooted with rfl | ⟨rest, rfl⟩
  · exact .inl rfl
  · exact .inr ⟨encodeUnsafe safe rest, by simp [encodeUnsafe, slash]⟩

/-! ## What stands in front of a path -/

/-- A path fits an authority if it is rooted. Without scheme and authority it must not look as if it
had them. -/
theorem checkPath_eq_ok {path : List Char} {hasScheme hasAuthority : Bool} :
    checkPath path hasScheme hasAuthority = .ok () ↔
      (hasAuthority = true → IsRooted path) ∧
        (hasScheme = false → hasAuthority = false →
          path.take 2 ≠ ['/', '/'] ∧ path.head? ≠ some ':') := by
  have rooted : IsRooted path ↔ ¬ (!path.isEmpty && path.head? != some '/') = true := by
    cases path with
    | nil => simp [IsRooted]
    | cons c rest => simp [IsRooted]
  unfold checkPath
  rw [ite_error_eq_ok, ite_error_eq_ok, ite_error_eq_ok, rooted]
  cases hasScheme <;> cases hasAuthority <;> simp

end BucketRegion.Url
