import Mathlib.Data.List.Induction
import Mathlib.Data.List.TakeWhile
import BucketRegion.Decimal.Natural
import BucketRegion.Decimal.Numeral
import BucketRegion.Decimal.Power

/-!
# Whole numbers that are written and read

A whole number is read from its own text, if the text is not too long. The text of a number that has
been read is not too long.
-/

set_option autoImplicit false

namespace BucketRegion.Decimal

/-! ## Digits -/

theorem digits_ne_nil (n : Nat) : digits n ≠ [] := by
  unfold digits
  split <;> simp

theorem isDigit_of_mem_digits {c : Char} {n : Nat} (member : c ∈ digits n) :
    c.isDigit = true := by
  have table : ∀ d < 10, (digit d).isDigit = true := by decide
  fun_induction digits n with
  | case1 n small =>
      rw [List.mem_singleton.mp member]
      exact table n small
  | case2 n large ih =>
      rcases List.mem_append.mp member with front | last
      · exact ih front
      · rw [List.mem_singleton.mp last]
        exact table _ (Nat.mod_lt n (by decide))

theorem at_not_mem_integerText (n : Int) : '@' ∉ (integerText n).toList := by
  rw [integerText, String.toList_ofList]
  intro member
  cases n with
  | ofNat n => exact absurd (isDigit_of_mem_digits member) (by decide)
  | negSucc n =>
      rcases List.mem_cons.mp member with sign | digit
      · exact absurd sign (by decide)
      · exact absurd (isDigit_of_mem_digits digit) (by decide)

theorem toNat_digit {d : Nat} (small : d < 10) : (digit d).toNat - 0x30 = d := by
  have table : ∀ d < 10, (digit d).toNat - 0x30 = d := by decide
  exact table d small

theorem valueOf_append_digit (ds : List Char) (c : Char) :
    valueOf (ds ++ [c]) = 10 * valueOf ds + (c.toNat - 0x30) := by
  simp [valueOf]

theorem valueOf_digits (n : Nat) : valueOf (digits n) = n := by
  fun_induction digits n with
  | case1 n small => simpa [valueOf] using toNat_digit small
  | case2 n large ih =>
      rw [valueOf_append_digit, ih, toNat_digit (Nat.mod_lt n (by decide))]
      omega

theorem length_digits_le {n k : Nat} (some : 0 < k) (small : n < tenTo k) :
    (digits n).length ≤ k := by
  fun_induction digits n generalizing k with
  | case1 n few => exact Nat.succ_le_of_lt some
  | case2 n large ih =>
      obtain ⟨k, rfl⟩ := Nat.exists_eq_succ_of_ne_zero (Nat.ne_of_gt some)
      have more : 0 < k := by
        rcases Nat.eq_zero_or_pos k with rfl | pos
        · rw [tenTo_succ, tenTo_zero] at small
          omega
        · exact pos
      have shorter : n / 10 < tenTo k := by
        rw [tenTo_succ] at small
        omega
      simpa using ih more shorter

theorem valueOf_lt {ds : List Char} (decimal : ∀ c ∈ ds, c.isDigit = true) :
    valueOf ds < tenTo ds.length := by
  induction ds using List.reverseRecOn with
  | nil => decide
  | append_singleton ds c ih =>
      have last : c.toNat - 0x30 < 10 := by
        have bounds := decimal c (by simp)
        simp only [Char.isDigit, Bool.and_eq_true, decide_eq_true_eq] at bounds
        have upper : c.toNat ≤ 57 := bounds.2
        omega
      have front := ih fun c member => decimal c (List.mem_append_left _ member)
      rw [valueOf_append_digit, List.length_append, List.length_singleton, tenTo_succ]
      omega

/-! ## Digits of a fixed number -/

@[simp] theorem length_digitsPadded (width n : Nat) : (digitsPadded width n).length = width := by
  induction width generalizing n with
  | zero => rfl
  | succ width ih => simp [digitsPadded, ih]

theorem isDigit_of_mem_digitsPadded {c : Char} {width n : Nat}
    (member : c ∈ digitsPadded width n) : c.isDigit = true := by
  have table : ∀ d < 10, (digit d).isDigit = true := by decide
  induction width generalizing n with
  | zero => cases member
  | succ width ih =>
      rcases List.mem_append.mp member with front | last
      · exact ih front
      · rw [List.mem_singleton.mp last]
        exact table _ (Nat.mod_lt n (by decide))

theorem valueOf_digitsPadded {width n : Nat} (small : n < tenTo width) :
    valueOf (digitsPadded width n) = n := by
  induction width generalizing n with
  | zero =>
      rw [tenTo_zero] at small
      rw [Nat.lt_one_iff.mp small]
      rfl
  | succ width ih =>
      rw [tenTo_succ] at small
      rw [digitsPadded, valueOf_append_digit, ih (by omega),
        toNat_digit (Nat.mod_lt n (by decide))]
      omega

/-- A number that fills its digits needs no zeros before them. -/
theorem digits_eq_digitsPadded {width n : Nat} (large : tenTo width ≤ n)
    (small : n < tenTo (width + 1)) : digits n = digitsPadded (width + 1) n := by
  induction width generalizing n with
  | zero =>
      have single : n < 10 := small
      rw [digits, if_pos single]
      simp [digitsPadded, Nat.mod_eq_of_lt single]
  | succ width ih =>
      have several : ¬ n < 10 := by
        have some := tenTo_pos width
        rw [tenTo_succ] at large
        omega
      rw [tenTo_succ] at large small
      rw [digits, if_neg several, digitsPadded, ih (by omega) (by omega)]

/-- Reads a number of so many digits. -/
def readPadded? (width : Nat) (cs : List Char) : Option (Nat × List Char) :=
  if (cs.take width).length == width && (cs.take width).all Char.isDigit then
    some (valueOf (cs.take width), cs.drop width)
  else none

theorem readPadded?_append {width n : Nat} (small : n < tenTo width) (rest : List Char) :
    readPadded? width (digitsPadded width n ++ rest) = some (n, rest) := by
  have front : (digitsPadded width n ++ rest).take width = digitsPadded width n := by simp
  have back : (digitsPadded width n ++ rest).drop width = rest := by simp
  have decimal : (digitsPadded width n).all Char.isDigit = true :=
    List.all_eq_true.mpr fun c member => isDigit_of_mem_digitsPadded member
  rw [readPadded?, front, back, valueOf_digitsPadded small, decimal]
  simp

/-! ## Reading -/

/-- A digit of any script as a digit of ASCII. -/
def plainChar (c : Char) : Char :=
  match Text.digitValue? c with
  | some d => Char.ofNat (0x30 + d)
  | none => c

theorem plainNumeral_eq (s : String) :
    plainNumeral s = Text.trimWhile isNumeralBlank (s.toList.map plainChar) := rfl

theorem plain_of_isDigit {c : Char} (decimal : c.isDigit = true) :
    plainChar c = c ∧ isNumeralBlank c = false := by
  have small : c.toNat < 128 := by
    simp only [Char.isDigit, Bool.and_eq_true, decide_eq_true_eq] at decimal
    have upper : c.toNat ≤ 57 := decimal.2
    omega
  have table : ∀ n < 128, (Char.ofNat n).isDigit = true →
      plainChar (Char.ofNat n) = Char.ofNat n ∧ isNumeralBlank (Char.ofNat n) = false := by
    decide
  have known := table c.toNat small
  rw [Char.ofNat_toNat] at known
  exact known decimal

theorem trimWhile_of_forall {α : Type} {p : α → Bool} {xs : List α}
    (kept : ∀ x ∈ xs, p x = false) : Text.trimWhile p xs = xs := by
  have unchanged : ∀ ys : List α, (∀ y ∈ ys, p y = false) → ys.dropWhile p = ys := by
    intro ys held
    cases ys with
    | nil => rfl
    | cons y ys => rw [List.dropWhile_cons_of_neg (by simp [held y List.mem_cons_self])]
  rw [Text.trimWhile, unchanged xs kept, Text.dropEndWhile,
    unchanged xs.reverse fun y member => kept y (List.mem_reverse.mp member), List.reverse_reverse]

theorem plainNumeral_integerText (n : Int) :
    plainNumeral (integerText n) = integerChars n := by
  have plain : ∀ c ∈ integerChars n, plainChar c = c ∧ isNumeralBlank c = false := by
    intro c member
    cases n with
    | ofNat n => exact plain_of_isDigit (isDigit_of_mem_digits member)
    | negSucc n =>
        rcases List.mem_cons.mp member with rfl | digit
        · decide
        · exact plain_of_isDigit (isDigit_of_mem_digits digit)
  have same : (integerChars n).map plainChar = integerChars n := by
    rw [List.map_congr_left (g := id) fun c member => (plain c member).1, List.map_id]
  rw [plainNumeral_eq, integerText, String.toList_ofList, same,
    trimWhile_of_forall fun c member => (plain c member).2]

theorem splitSign_integerChars (n : Int) :
    splitSign (integerChars n) = (decide (n < 0), digits n.natAbs) := by
  cases n with
  | negSucc n =>
      have negative : decide (Int.negSucc n < 0) = true := by simp
      rw [negative]
      rfl
  | ofNat n =>
      obtain ⟨first, rest, shown⟩ := List.exists_cons_of_ne_nil (digits_ne_nil n)
      have decimal : first.isDigit = true :=
        isDigit_of_mem_digits (by rw [shown]; exact List.mem_cons_self)
      have chars : integerChars (.ofNat n) = first :: rest := shown
      have whole : digits (Int.natAbs (.ofNat n)) = first :: rest := shown
      rw [chars, whole, splitSign]
      · rfl
      · intro _ same
        rw [(List.cons.inj same).1] at decimal
        exact absurd decimal (by decide)
      · intro _ same
        rw [(List.cons.inj same).1] at decimal
        exact absurd decimal (by decide)

theorem dropUnderscores?_of_digits {ds : List Char} (decimal : ∀ c ∈ ds, c.isDigit = true)
    (after : Bool) : dropUnderscores? after ds = some ds := by
  induction ds generalizing after with
  | nil => cases after <;> rfl
  | cons c ds ih =>
      have different : c ≠ '_' := by
        rintro rfl
        exact absurd (decimal '_' List.mem_cons_self) (by decide)
      rw [dropUnderscores?, ih fun c member => decimal c (List.mem_cons_of_mem _ member)]
      · rfl
      · exact fun same => different same

theorem isDigit_of_dropUnderscores? {cs ds : List Char} {after : Bool}
    (belongs : ∀ c ∈ cs, (c.isDigit || c == '_') = true)
    (dropped : dropUnderscores? after cs = some ds) : ∀ c ∈ ds, c.isDigit = true := by
  fun_induction dropUnderscores? after cs generalizing ds with
  | case1 =>
      cases dropped
      exact fun c member => nomatch member
  | case2 _ next rest _ ih =>
      exact ih (fun c member => belongs c (List.mem_cons_of_mem _ member)) dropped
  | case3 => cases dropped
  | case4 => cases dropped
  | case5 _ c rest plain ih =>
      obtain ⟨later, shown, rfl⟩ := Option.map_eq_some_iff.mp dropped
      have first : c.isDigit = true := by
        rcases Bool.or_eq_true_iff.mp (belongs c List.mem_cons_self) with digit | underscore
        · exact digit
        · exact absurd (beq_iff_eq.mp underscore) plain
      intro d member
      rcases List.mem_cons.mp member with rfl | among
      · exact first
      · exact ih (fun c member => belongs c (List.mem_cons_of_mem _ member)) shown d among

theorem readInteger_integerText {n : Int} (short : (digits n.natAbs).length ≤ digitLimit) :
    readInteger (integerText n) = .ok n := by
  have decimal : ∀ c ∈ digits n.natAbs, c.isDigit = true :=
    fun c member => isDigit_of_mem_digits member
  have belongs : ∀ c ∈ digits n.natAbs, (c.isDigit || c == '_') = true :=
    fun c member => by rw [decimal c member, Bool.true_or]
  have all : (digits n.natAbs).all (fun c => c.isDigit || c == '_') = true :=
    List.all_eq_true.mpr belongs
  have taken : (digits n.natAbs).takeWhile (fun c => c.isDigit || c == '_') = digits n.natAbs :=
    List.takeWhile_eq_self_iff.mpr belongs
  have value : (digits n.natAbs).foldl (fun n c => 10 * n + (c.toNat - 0x30)) 0 = n.natAbs :=
    valueOf_digits n.natAbs
  rw [readInteger, plainNumeral_integerText, splitSign_integerChars]
  dsimp only
  rw [taken, dropUnderscores?_of_digits decimal]
  dsimp only
  rw [if_neg (by omega), all, if_neg (by simpa using digits_ne_nil n.natAbs), value]
  congr 1
  split
  · next negative =>
      have below : n < 0 := by simpa using negative
      have size : Int.ofNat n.natAbs = -n := Int.ofNat_natAbs_of_nonpos (Int.le_of_lt below)
      rw [size, Int.neg_neg]
  · next positive =>
      have above : 0 ≤ n := by simpa using positive
      exact Int.natAbs_of_nonneg above

theorem length_digits_of_readInteger {s : String} {n : Int} (read : readInteger s = .ok n) :
    (digits n.natAbs).length ≤ digitLimit := by
  rw [readInteger] at read
  dsimp only at read
  split at read
  · cases read
  · next ds dropped =>
      split at read
      · cases read
      · next short =>
          split at read
          · cases read
          · next form =>
              rw [Bool.or_eq_true, not_or] at form
              have belongs : ∀ c ∈ (splitSign (plainNumeral s)).2.takeWhile
                  (fun c => c.isDigit || c == '_'), (c.isDigit || c == '_') = true :=
                fun c member => List.mem_takeWhile_imp (p := fun c => c.isDigit || c == '_') member
              have decimal := isDigit_of_dropUnderscores? belongs dropped
              have some : 0 < ds.length :=
                List.length_pos_iff.mpr fun none => form.1 (by simp [none])
              have value : n.natAbs = valueOf ds := by
                rw [← Except.ok.inj read]
                split
                · exact Int.natAbs_neg _
                · rfl
              rw [value]
              exact (length_digits_le some (valueOf_lt decimal)).trans (Nat.le_of_not_lt short)

end BucketRegion.Decimal
