import BucketRegion.Text.Split

/-!
# Parts of texts

Splitting and joining are those of the library. A text is the join of its parts, and parts without
separators are the parts of their join. A cut leaves out the first or the last separator of a text.
-/

set_option autoImplicit false

namespace BucketRegion.Text

variable {α : Type}

theorem joinWith_eq (seps : List α) (parts : List (List α)) :
    joinWith seps parts = seps.intercalate parts := by
  fun_induction joinWith seps parts with
  | case1 => rfl
  | case2 part => simp
  | case3 part parts nonempty ih =>
      rw [ih, List.intercalate_cons_of_ne_nil fun empty => nonempty empty]

theorem mem_joinWith {sep x : α} {parts : List (List α)} (member : x ∈ joinWith [sep] parts) :
    x = sep ∨ ∃ part ∈ parts, x ∈ part := by
  fun_induction joinWith [sep] parts with
  | case1 => cases member
  | case2 part => exact .inr ⟨part, List.mem_cons_self, member⟩
  | case3 part parts nonempty ih =>
      rw [List.append_assoc, List.mem_append, List.mem_append, List.mem_singleton] at member
      rcases member with here | mark | later
      · exact .inr ⟨part, List.mem_cons_self, here⟩
      · exact .inl mark
      · exact (ih later).imp_right fun ⟨found, among, within⟩ =>
          ⟨found, List.mem_cons_of_mem _ among, within⟩

theorem mem_joinWith_of_mem {x : α} {seps part : List α} {parts : List (List α)}
    (among : part ∈ parts) (within : x ∈ part) : x ∈ joinWith seps parts := by
  fun_induction joinWith seps parts with
  | case1 => cases among
  | case2 part => rwa [← List.mem_singleton.mp among]
  | case3 first parts nonempty ih =>
      rcases List.mem_cons.mp among with rfl | later
      · exact List.mem_append_left _ (List.mem_append_left _ within)
      · exact List.mem_append_right _ (ih later)

variable [BEq α]

theorem splitOn_eq (sep : α) (xs : List α) : splitOn sep xs = xs.splitOn sep := by
  induction xs with
  | nil => rfl
  | cons x xs ih =>
      rw [splitOn, List.splitOn_cons_eq_if_modifyHead, ih]
      split
      · rfl
      · cases parts : xs.splitOn sep with
        | nil => exact absurd parts (List.splitOn_ne_nil sep xs)
        | cons part parts => rfl

theorem splitOn_ne_nil (sep : α) (xs : List α) : splitOn sep xs ≠ [] := by
  rw [splitOn_eq]
  exact List.splitOn_ne_nil sep xs

variable [LawfulBEq α] {sep : α}

theorem joinWith_splitOn (sep : α) (xs : List α) : joinWith [sep] (splitOn sep xs) = xs := by
  rw [joinWith_eq, splitOn_eq, List.intercalate_splitOn]

theorem splitOn_joinWith {parts : List (List α)} (apart : ∀ part ∈ parts, sep ∉ part)
    (some : parts ≠ []) : splitOn sep (joinWith [sep] parts) = parts := by
  rw [joinWith_eq, splitOn_eq, List.splitOn_intercalate sep apart some]

theorem splitOn_of_not_mem {xs : List α} (absent : sep ∉ xs) : splitOn sep xs = [xs] := by
  rw [splitOn_eq, List.splitOn_eq_singleton absent]

theorem not_mem_of_mem_splitOn {xs part : List α} (member : part ∈ splitOn sep xs) :
    sep ∉ part := by
  induction xs generalizing part with
  | nil =>
      rw [splitOn, List.mem_singleton] at member
      simp [member]
  | cons x xs ih =>
      rw [splitOn] at member
      split at member
      · rcases List.mem_cons.mp member with rfl | later
        · simp
        · exact ih later
      · next different =>
          split at member
          · next none => exact absurd none (splitOn_ne_nil sep xs)
          · next first rest shown =>
              rw [shown] at ih
              rcases List.mem_cons.mp member with rfl | later
              · intro among
                rcases List.mem_cons.mp among with same | within
                · exact different (by simp [same])
                · exact ih List.mem_cons_self within
              · exact ih (List.mem_cons_of_mem _ later)

theorem mem_of_mem_splitOn {xs part : List α} {x : α} (among : part ∈ splitOn sep xs)
    (within : x ∈ part) : x ∈ xs := by
  rw [← joinWith_splitOn sep xs]
  exact mem_joinWith_of_mem among within

/-! ## Cutting -/

theorem cut?_of_not_mem {xs : List α} (absent : sep ∉ xs) : cut? sep xs = none := by
  induction xs with
  | nil => rfl
  | cons x xs ih =>
      obtain ⟨different, absent⟩ := not_or.mp fun among => absent (List.mem_cons.mpr among)
      have other : (x == sep) = false := beq_eq_false_iff_ne.mpr fun same => different same.symm
      simp [cut?, other, ih absent]

theorem cut?_append {before : List α} (absent : sep ∉ before) (after : List α) :
    cut? sep (before ++ sep :: after) = some (before, after) := by
  induction before with
  | nil => simp [cut?]
  | cons x xs ih =>
      obtain ⟨different, absent⟩ := not_or.mp fun among => absent (List.mem_cons.mpr among)
      have other : (x == sep) = false := beq_eq_false_iff_ne.mpr fun same => different same.symm
      simp [cut?, other, ih absent]

theorem cutLast?_of_not_mem {xs : List α} (absent : sep ∉ xs) : cutLast? sep xs = none := by
  rw [cutLast?, cut?_of_not_mem (by simpa using absent)]
  rfl

theorem cutLast?_append (before : List α) {after : List α} (absent : sep ∉ after) :
    cutLast? sep (before ++ sep :: after) = some (before, after) := by
  have turned : (before ++ sep :: after).reverse = after.reverse ++ sep :: before.reverse := by
    simp
  rw [cutLast?, turned, cut?_append (by simpa using absent)]
  simp

theorem cut?_eq_some {xs before after : List α} (found : cut? sep xs = some (before, after)) :
    xs = before ++ sep :: after ∧ sep ∉ before := by
  induction xs generalizing before with
  | nil => cases found
  | cons x xs ih =>
      rw [cut?] at found
      split at found
      · next here =>
          cases found
          exact ⟨by rw [beq_iff_eq.mp here]; rfl, List.not_mem_nil⟩
      · next different =>
          obtain ⟨⟨front, rest⟩, shown, pair⟩ := Option.map_eq_some_iff.mp found
          cases pair
          obtain ⟨whole, absent⟩ := ih shown
          refine ⟨by rw [whole]; rfl, fun member => ?_⟩
          rcases List.mem_cons.mp member with same | later
          · exact different (by simp [same])
          · exact absent later

theorem not_mem_of_cut?_eq_none {xs : List α} (uncut : cut? sep xs = none) : sep ∉ xs := by
  induction xs with
  | nil => exact List.not_mem_nil
  | cons x xs ih =>
      rw [cut?] at uncut
      split at uncut
      · cases uncut
      · next different =>
          intro member
          rcases List.mem_cons.mp member with same | later
          · exact different (by simp [same])
          · exact ih (Option.map_eq_none_iff.mp uncut) later

theorem cutLast?_eq_some {xs before after : List α}
    (found : cutLast? sep xs = some (before, after)) :
    xs = before ++ sep :: after ∧ sep ∉ after := by
  obtain ⟨⟨back, front⟩, shown, pair⟩ := Option.map_eq_some_iff.mp found
  cases pair
  obtain ⟨whole, absent⟩ := cut?_eq_some shown
  exact ⟨by rw [← List.reverse_reverse xs, whole]; simp, by simpa using absent⟩

theorem not_mem_of_cutLast?_eq_none {xs : List α} (uncut : cutLast? sep xs = none) :
    sep ∉ xs := by
  simpa using not_mem_of_cut?_eq_none (Option.map_eq_none_iff.mp uncut)

/-! ## Leads -/

theorem dropLead?_append (lead xs : List α) : dropLead? lead (lead ++ xs) = some xs := by
  induction lead with
  | nil => rfl
  | cons first lead ih => simpa [dropLead?] using ih

theorem eq_of_dropLead? {lead xs rest : List α} (dropped : dropLead? lead xs = some rest) :
    xs = lead ++ rest := by
  induction lead generalizing xs with
  | nil =>
      cases dropped
      rfl
  | cons first lead ih =>
      cases xs with
      | nil => cases dropped
      | cons x xs =>
          rw [dropLead?] at dropped
          split at dropped
          · next same => rw [ih dropped, eq_of_beq same, List.cons_append]
          · cases dropped

end BucketRegion.Text
