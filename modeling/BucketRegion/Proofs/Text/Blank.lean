import BucketRegion.Proofs.Region
import BucketRegion.Text.Blank

/-!
# Blanks in texts that are joined

Values are joined by a comma, or by a comma and a space. When the blanks of the result are reduced,
the space after a comma goes only if nothing follows it.
-/

set_option autoImplicit false

namespace BucketRegion.Text

/-- Characters of which the first, if there is one, is not blank. -/
def StartsBare (cs : List Char) : Prop := ∀ c, cs.head? = some c → isBlank c = false

theorem startsBare_nil : StartsBare [] := fun _ none => nomatch none

theorem startsBare_cons {c : Char} {cs : List Char} :
    StartsBare (c :: cs) ↔ isBlank c = false := by
  simp [StartsBare]

theorem startsBare_of_trim_eq {s : String} (same : trim s = s) : StartsBare s.toList :=
  fun c first => isBare_of_trim_eq same c (.inl first)

theorem StartsBare.append {cs : List Char} (bare : StartsBare cs) {rest : List Char}
    (restBare : StartsBare rest) : StartsBare (cs ++ rest) := by
  cases cs with
  | nil => exact restBare
  | cons c cs => exact startsBare_cons.mpr (startsBare_cons.mp bare)

/-! ## Words -/

section

variable {c d : Char} {current cs ds : List Char}

theorem wordsFrom_blank (blank : isBlank c = true) :
    wordsFrom current (c :: cs) =
      if current.isEmpty then wordsFrom [] cs else current.reverse :: wordsFrom [] cs := by
  rw [wordsFrom, if_pos blank]

theorem wordsFrom_bare (bare : isBlank c = false) :
    wordsFrom current (c :: cs) = wordsFrom (c :: current) cs := by
  rw [wordsFrom, if_neg (by simp [bare])]

theorem wordsFrom_cons_ne_nil (current : List Char) (c : Char) (cs : List Char) :
    wordsFrom (c :: current) cs ≠ [] := by
  induction cs generalizing c current with
  | nil => simp [wordsFrom]
  | cons d cs ih =>
      cases blank : isBlank d with
      | true => simp [wordsFrom_blank blank]
      | false =>
          rw [wordsFrom_bare blank]
          exact ih (c :: current) d

/-- A blank ends a word. -/
theorem wordsFrom_append_blank (blank : isBlank d = true) (current cs ds : List Char) :
    wordsFrom current (cs ++ d :: ds) = wordsFrom current cs ++ wordsFrom [] ds := by
  induction cs generalizing current with
  | nil =>
      rw [List.nil_append, wordsFrom_blank blank, wordsFrom]
      split <;> rfl
  | cons c cs ih =>
      cases first : isBlank c with
      | true =>
          rw [List.cons_append, wordsFrom_blank first, wordsFrom_blank first, ih]
          split <;> rfl
      | false => rw [List.cons_append, wordsFrom_bare first, wordsFrom_bare first, ih]

/-- The characters of a word that has begun stand before what follows. -/
theorem wordsFrom_append_current (begun : current ≠ []) (before cs : List Char) :
    ∃ word words, wordsFrom current cs = word :: words ∧
      wordsFrom (current ++ before) cs = (before.reverse ++ word) :: words := by
  induction cs generalizing current with
  | nil =>
      refine ⟨current.reverse, [], ?_, ?_⟩
      · simp [wordsFrom, begun]
      · simp [wordsFrom, begun]
  | cons c cs ih =>
      cases blank : isBlank c with
      | true =>
          refine ⟨current.reverse, wordsFrom [] cs, ?_, ?_⟩
          · simp [wordsFrom_blank blank, begun]
          · simp [wordsFrom_blank blank, begun]
      | false =>
          rw [wordsFrom_bare blank, wordsFrom_bare blank]
          exact ih (List.cons_ne_nil c current)

theorem wordsFrom_ne_nil (bare : isBlank d = false) (current cs ds : List Char) :
    wordsFrom current (cs ++ d :: ds) ≠ [] := by
  induction cs generalizing current with
  | nil =>
      rw [List.nil_append, wordsFrom_bare bare]
      exact wordsFrom_cons_ne_nil current d ds
  | cons c cs ih =>
      cases blank : isBlank c with
      | true =>
          rw [List.cons_append, wordsFrom_blank blank]
          split
          · exact ih []
          · exact List.cons_ne_nil _ _
      | false =>
          rw [List.cons_append, wordsFrom_bare blank]
          exact ih (c :: current)

end

/-! ## Blanks that are reduced -/

/-- The characters of a text with its blanks reduced. -/
def collapse (cs : List Char) : List Char := [' '].intercalate (wordsFrom [] cs)

theorem toList_collapseBlanks (s : String) : (collapseBlanks s).toList = collapse s.toList := by
  rw [collapseBlanks, String.toList_intercalate, words, List.map_map, collapse]
  simp [Function.comp_def]

theorem intercalate_append_cons (sep before word : List Char) (words : List (List Char)) :
    sep.intercalate ((before ++ word) :: words) = before ++ sep.intercalate (word :: words) := by
  cases words with
  | nil => simp
  | cons next words => simp [List.intercalate_cons_cons]

theorem intercalate_append {sep : List Char} {first second : List (List Char)}
    (some : first ≠ []) (others : second ≠ []) :
    sep.intercalate (first ++ second) =
      sep.intercalate first ++ sep ++ sep.intercalate second := by
  induction first with
  | nil => exact absurd rfl some
  | cons word words ih =>
      cases words with
      | nil => simp [List.intercalate_cons_of_ne_nil others]
      | cons next words =>
          rw [List.cons_append, List.intercalate_cons_of_ne_nil (by simp), ih (by simp),
            List.intercalate_cons_of_ne_nil (List.cons_ne_nil next words)]
          simp

/-- A text that goes on without a blank is reduced on each side of the place. -/
theorem intercalate_wordsFrom_append {d : Char} (bare : isBlank d = false) {ds : List Char}
    (startsBare : StartsBare ds) (current cs : List Char) :
    [' '].intercalate (wordsFrom current (cs ++ d :: ds)) =
      [' '].intercalate (wordsFrom current (cs ++ [d])) ++ collapse ds := by
  induction cs generalizing current with
  | nil =>
      rw [List.nil_append, List.nil_append, wordsFrom_bare bare, wordsFrom_bare bare]
      cases ds with
      | nil => simp [collapse, wordsFrom]
      | cons e ds =>
          have next := startsBare_cons.mp startsBare
          obtain ⟨word, words, alone, behind⟩ :=
            wordsFrom_append_current (List.cons_ne_nil e []) (d :: current) ds
          rw [List.singleton_append] at behind
          rw [wordsFrom_bare next, behind, intercalate_append_cons, collapse,
            wordsFrom_bare next, alone]
          simp [wordsFrom]
  | cons c cs ih =>
      rw [List.cons_append, List.cons_append]
      cases blank : isBlank c with
      | true =>
          rw [wordsFrom_blank blank, wordsFrom_blank blank]
          split
          · exact ih []
          · rw [List.intercalate_cons_of_ne_nil (wordsFrom_ne_nil bare [] cs ds),
              List.intercalate_cons_of_ne_nil (wordsFrom_ne_nil bare [] cs []), ih []]
            simp only [List.append_assoc]
      | false =>
          rw [wordsFrom_bare blank, wordsFrom_bare blank]
          exact ih (c :: current)

theorem dropEndWhile_append {α : Type} {p : α → Bool} {x : α} (kept : p x = false)
    (xs ys : List α) : dropEndWhile p (xs ++ x :: ys) = xs ++ x :: dropEndWhile p ys := by
  rw [dropEndWhile, List.reverse_append, List.reverse_cons, List.append_assoc,
    List.dropWhile_append, dropEndWhile]
  split
  · next none =>
      rw [List.isEmpty_iff.mp none]
      simp [kept]
  · simp

theorem trimWhile_of_startsBare {cs : List Char} (bare : StartsBare cs) :
    trimWhile isBlank cs = dropEndWhile isBlank cs := by
  cases cs with
  | nil => rfl
  | cons c cs =>
      rw [trimWhile, List.dropWhile_cons_of_neg (by simp [startsBare_cons.mp bare])]

/-- A way to take blanks out of a text, by what it does after a comma. -/
structure Reduces (clean : List Char → List Char) : Prop where
  nil : clean [] = []
  comma : ∀ {v z : List Char}, StartsBare v → StartsBare z →
    clean (v ++ ',' :: z) = clean (v ++ [',']) ++ clean z
  spaced : ∀ {v z : List Char}, StartsBare v → StartsBare z → z ≠ [] →
    clean (v ++ ',' :: ' ' :: z) = clean (v ++ [',']) ++ ' ' :: clean z
  ending : ∀ {v : List Char}, StartsBare v → clean (v ++ [',', ' ']) = clean (v ++ [','])

theorem reduces_collapse : Reduces collapse where
  nil := rfl
  comma {v z} _ bare := intercalate_wordsFrom_append (by decide) bare [] v
  spaced {v z} _ bare some := by
    obtain ⟨e, z, rfl⟩ := List.exists_cons_of_ne_nil some
    have next := startsBare_cons.mp bare
    have others : wordsFrom [] (e :: z) ≠ [] := wordsFrom_ne_nil next [] [] z
    have split : v ++ ',' :: ' ' :: e :: z = (v ++ [',']) ++ ' ' :: e :: z := by simp
    rw [collapse, split, wordsFrom_append_blank (by decide),
      intercalate_append (wordsFrom_ne_nil (by decide) [] v []) others]
    simp [collapse]
  ending {v} _ := by
    have split : v ++ [',', ' '] = (v ++ [',']) ++ ' ' :: [] := by simp
    rw [collapse, split, wordsFrom_append_blank (by decide)]
    simp [collapse, wordsFrom]

theorem reduces_trimWhile : Reduces (trimWhile isBlank) where
  nil := rfl
  comma {v z} bare restBare := by
    have comma : StartsBare [','] := startsBare_cons.mpr (by decide)
    rw [trimWhile_of_startsBare (bare.append (startsBare_cons.mpr (by decide))),
      trimWhile_of_startsBare (bare.append comma), trimWhile_of_startsBare restBare,
      dropEndWhile_append (by decide), dropEndWhile_append (by decide)]
    simp [dropEndWhile]
  spaced {v z} bare restBare some := by
    have comma : StartsBare [','] := startsBare_cons.mpr (by decide)
    obtain ⟨e, z, rfl⟩ := List.exists_cons_of_ne_nil some
    have next := startsBare_cons.mp restBare
    have after : dropEndWhile isBlank (' ' :: e :: z) = ' ' :: e :: dropEndWhile isBlank z :=
      dropEndWhile_append next [' '] z
    have first : dropEndWhile isBlank (e :: z) = e :: dropEndWhile isBlank z :=
      dropEndWhile_append next [] z
    rw [trimWhile_of_startsBare (bare.append (startsBare_cons.mpr (by decide))),
      trimWhile_of_startsBare (bare.append comma), trimWhile_of_startsBare restBare,
      dropEndWhile_append (by decide), dropEndWhile_append (by decide), after, first]
    simp [dropEndWhile]
  ending {v} bare := by
    rw [trimWhile_of_startsBare (bare.append (startsBare_cons.mpr (by decide))),
      trimWhile_of_startsBare (bare.append (startsBare_cons.mpr (by decide))),
      dropEndWhile_append (by decide), dropEndWhile_append (by decide)]
    rfl

/-! ## Values that are joined -/

section

variable {clean : List Char → List Char} {values : List (List Char)}

theorem startsBare_intercalate {c : Char} (bare : isBlank c = false) (sep : List Char)
    (startBare : ∀ v ∈ values, StartsBare v) : StartsBare ((c :: sep).intercalate values) := by
  induction values with
  | nil => exact startsBare_nil
  | cons v values ih =>
      cases values with
      | nil => simpa using startBare
      | cons w values =>
          rw [List.intercalate_cons_cons, List.append_assoc]
          refine (startBare v List.mem_cons_self).append ?_
          exact startsBare_cons.mpr bare

theorem intercalate_eq_nil {c : Char} {sep v : List Char}
    (empty : (c :: sep).intercalate (v :: values) = []) : v :: values = [[]] := by
  cases values with
  | nil => simpa using empty
  | cons w values => simp [List.intercalate_cons_cons] at empty

/-- The space after a comma is kept unless nothing follows. -/
theorem Reduces.length_le (reduces : Reduces clean) (startBare : ∀ v ∈ values, StartsBare v) :
    (clean ([','].intercalate values)).length ≤
      (clean ([',', ' '].intercalate values)).length ∧
    ((clean ([','].intercalate values)).length =
      (clean ([',', ' '].intercalate values)).length → values.length < 2 ∨ ∃ v, values = [v, []]) := by
  induction values with
  | nil => exact ⟨le_rfl, fun _ => .inl (by simp)⟩
  | cons v values ih =>
      cases values with
      | nil => exact ⟨by simp, fun _ => .inl (by simp)⟩
      | cons w values =>
          have first := startBare v List.mem_cons_self
          have later : ∀ v ∈ w :: values, StartsBare v :=
            fun v member => startBare v (List.mem_cons_of_mem _ member)
          have shorter := (ih later).1
          rw [List.intercalate_cons_cons, List.intercalate_cons_cons, List.append_assoc,
            List.append_assoc]
          by_cases ends : w :: values = [[]]
          · obtain ⟨rfl, rfl⟩ := List.cons.inj ends
            refine ⟨?_, fun _ => .inr ⟨v, rfl⟩⟩
            simp [reduces.ending first]
          · have restBare := startsBare_intercalate (c := ',') (by decide) [' '] later
            have restBare' := startsBare_intercalate (c := ',') (by decide) [] later
            have some : [',', ' '].intercalate (w :: values) ≠ [] := mt intercalate_eq_nil ends
            rw [List.singleton_append, reduces.comma first restBare',
              show [',', ' '] ++ [',', ' '].intercalate (w :: values) =
                ',' :: ' ' :: [',', ' '].intercalate (w :: values) from rfl,
              reduces.spaced first restBare some]
            simp only [List.length_append, List.length_cons]
            exact ⟨by omega, fun same => absurd same (by omega)⟩

end

end BucketRegion.Text
