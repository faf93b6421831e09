import Mathlib
import BucketRegion.Text.Ascii
import BucketRegion.Text.Case

/-!
# Small letters

A text in small letters is the same in small letters. No letter beyond ASCII has a small form
within ASCII, but for the sign of the kelvin, which becomes a `k`, and the capital I with a dot,
which becomes an `i` and a dot. So where the small form is an ASCII text without a `k`, the text
is ASCII text.
-/

set_option autoImplicit false

namespace BucketRegion.Text

/-! ## Characters of ASCII -/

/-- A property of the characters of ASCII can be looked up. -/
theorem forall_ascii {p : Char → Prop} (table : ∀ n < 128, p (Char.ofNat n)) {c : Char}
    (ascii : c.toNat < 128) : p c := by
  have found := table c.toNat ascii
  rwa [Char.ofNat_toNat] at found

theorem ascii_of_isAlphanum {c : Char} (plain : c.isAlphanum = true) : c.toNat < 128 := by
  simp only [Char.isAlphanum, Char.isAlpha, Char.isUpper, Char.isLower, Char.isDigit,
    Bool.or_eq_true, Bool.and_eq_true, decide_eq_true_eq, UInt32.le_iff_toNat_le,
    ge_iff_le] at plain
  change ((65 ≤ c.toNat ∧ c.toNat ≤ 90) ∨ (97 ≤ c.toNat ∧ c.toNat ≤ 122)) ∨
    (48 ≤ c.toNat ∧ c.toNat ≤ 57) at plain
  omega

/-! ## Runs of letters -/

namespace CaseRun

/-- No code point to which the one run moves something is held by the other: its images end before
the other begins, begin after the other ends, or fall between the code points that it holds. -/
def apart (run other : CaseRun) : Bool :=
  Nat.blt (run.image run.last) other.first || Nat.blt other.last (run.image run.first) ||
    (other.step == 2 && (run.step == 2 || run.first == run.last) &&
      (run.image run.first + other.first) % 2 == 1)

/-- The spacing is one or two, and the images are code points of characters, beyond ASCII but for
the letter `k`. -/
def isSound (run : CaseRun) : Bool :=
  (run.step == 1 || run.step == 2) &&
    (Nat.ble 0x80 (run.image run.first) || run.first == run.last && run.image run.first == 0x6b) &&
    (Nat.blt (run.image run.last) 0xD800 ||
      Nat.blt 0xDFFF (run.image run.first) && Nat.blt (run.image run.last) 0x110000)

/-- The capital I with a dot, which has several letters as its small form. -/
def dotted : CaseRun := ⟨0x130, 0x130, 1, 0⟩

variable {run other : CaseRun} {n : Nat}

theorem bounds_of_isSound (sound : run.isSound = true) (held : run.holds n = true) :
    run.image run.first ≤ run.image n ∧ run.image n ≤ run.image run.last ∧
      run.image n + run.first = run.image run.first + n := by
  simp only [isSound, Bool.and_eq_true, Bool.or_eq_true, Nat.ble_eq, beq_iff_eq] at sound
  simp only [holds, Bool.and_eq_true, decide_eq_true_eq] at held
  simp only [image, Int.ofNat_eq_natCast] at *
  omega

theorem holds_eq_false (sound : run.isSound = true) (held : run.holds n = true)
    (apart : run.apart other = true) : other.holds (run.image n) = false := by
  obtain ⟨least, most, moved⟩ := bounds_of_isSound sound held
  simp only [CaseRun.apart, Bool.or_eq_true, Bool.and_eq_true, Nat.blt_eq, beq_iff_eq] at apart
  simp only [holds, Bool.and_eq_true, decide_eq_true_eq, beq_iff_eq] at held
  apply Bool.eq_false_iff.mpr
  intro holds
  simp only [CaseRun.holds, Bool.and_eq_true, decide_eq_true_eq, beq_iff_eq] at holds
  rcases apart with (before | after) | ⟨⟨alternate, spaced | alone⟩, odd⟩
  · omega
  · omega
  -- Of code points that alternate the ones that are held all are even, or all are odd.
  · rw [alternate] at holds
    rw [spaced] at held
    omega
  · rw [alternate] at holds
    omega

theorem of_move? {table : List CaseRun} {m : Nat} (moved : move? table n = some m) :
    ∃ run ∈ table, run.holds n = true ∧ run.image n = m := by
  obtain ⟨run, found, image⟩ := Option.map_eq_some_iff.mp moved
  have held : run.holds n = true := List.find?_some (p := fun run : CaseRun => run.holds n) found
  exact ⟨run, List.mem_of_find?_eq_some found, held, image⟩

theorem move?_eq_none {table : List CaseRun} (unheld : ∀ run ∈ table, run.holds n = false) :
    move? table n = none := by
  rw [move?, Option.map_eq_none_iff, List.find?_eq_none]
  intro run member
  simp [unheld run member]

theorem isSound_lowerRuns : ∀ run ∈ lowerRuns, run.isSound = true :=
  List.all_eq_true.mp (by decide +kernel)

theorem apart_lowerRuns : ∀ run ∈ lowerRuns, ∀ other ∈ dotted :: lowerRuns,
    run.apart other = true := by
  have table : (lowerRuns.all fun run => (dotted :: lowerRuns).all run.apart) = true := by
    decide +kernel
  exact fun run member => List.all_eq_true.mp (List.all_eq_true.mp table run member)

end CaseRun

/-- A character that is its own small form. -/
def IsSmall (c : Char) : Prop := c ≠ 'Σ' ∧ lowerChar c = [c]

/-! ## One character -/

section

variable {c d : Char}

theorem lowerChar_of_ascii (ascii : c.toNat < 128) : lowerChar c = [c.toLower] := by
  rw [lowerChar, if_pos ascii]

theorem toLower_ascii (ascii : c.toNat < 128) : c.toLower.toNat < 128 := by
  by_cases capital : c.isUpper = true
  · rw [Char.toLower_eq_of_isUpper capital, Char.toNat_ofNat]
    simp only [Char.isUpper, ge_iff_le, UInt32.le_iff_toNat_le, decide_eq_true_eq] at capital
    have bounded : c.toNat ≤ 90 := capital.2
    split <;> omega
  · rw [Char.toLower_eq_of_not_isUpper capital]
    exact ascii

theorem isSmall_toLower (ascii : c.toNat < 128) : IsSmall c.toLower := by
  have bounded := toLower_ascii ascii
  refine ⟨?_, ?_⟩
  · rintro sigma
    rw [sigma] at bounded
    exact absurd bounded (by decide)
  · rw [lowerChar_of_ascii bounded, Char.toLower_toLower_eq_toLower]

theorem isSmall_of_unheld (beyond : ¬ c.toNat < 128)
    (unheld : ∀ run ∈ CaseRun.dotted :: lowerRuns, run.holds c.toNat = false) : IsSmall c := by
  refine ⟨?_, ?_⟩
  · rintro rfl
    have held : ∃ run ∈ lowerRuns, run.holds ('Σ').toNat = true := by decide +kernel
    obtain ⟨run, member, held⟩ := held
    rw [unheld run (List.mem_cons_of_mem _ member)] at held
    cases held
  · have single : lowerExpansions.lookup c.toNat = none := by
      have other := unheld CaseRun.dotted List.mem_cons_self
      have apart : (c.toNat == 0x130) = false := by
        apply beq_eq_false_iff_ne.mpr
        intro same
        rw [same] at other
        exact absurd other (by decide)
      simp [lowerExpansions, List.lookup, apart]
    have unmoved := CaseRun.move?_eq_none fun run member =>
      unheld run (List.mem_cons_of_mem _ member)
    rw [lowerChar, if_neg beyond, single, unmoved]

/-- What a letter beyond ASCII is moved to is small, and beyond ASCII or a `k`. -/
theorem isSmall_image {run : CaseRun} (member : run ∈ lowerRuns) {n : Nat}
    (held : run.holds n = true) :
    IsSmall (Char.ofNat (run.image n)) ∧
      (128 ≤ (Char.ofNat (run.image n)).toNat ∨ Char.ofNat (run.image n) = 'k') := by
  have sound := CaseRun.isSound_lowerRuns run member
  obtain ⟨least, most, _⟩ := CaseRun.bounds_of_isSound sound held
  have shape := sound
  simp only [CaseRun.isSound, Bool.and_eq_true, Bool.or_eq_true, Nat.ble_eq, Nat.blt_eq,
    beq_iff_eq] at shape
  obtain ⟨⟨_, code⟩, valid⟩ := shape
  have same : (Char.ofNat (run.image n)).toNat = run.image n := by
    rw [Char.toNat_ofNat, if_pos]
    unfold Nat.isValidChar
    omega
  rcases code with beyond | ⟨alone, letter⟩
  · refine ⟨isSmall_of_unheld (by omega) fun other among => ?_, .inl (by omega)⟩
    rw [same]
    exact CaseRun.holds_eq_false sound held (CaseRun.apart_lowerRuns run member other among)
  · have kelvin : run.image n = 0x6b := by
      rw [alone] at letter
      rw [alone, letter] at least
      rw [letter] at most
      omega
    rw [kelvin]
    exact ⟨⟨by decide, by decide⟩, .inr rfl⟩

/-- A letter beyond ASCII becomes small letters, one of which is beyond ASCII or a `k`. -/
theorem lowerChar_of_not_ascii (beyond : ¬ c.toNat < 128) (plain : c ≠ 'Σ') :
    (∀ d ∈ lowerChar c, IsSmall d) ∧ ∃ d ∈ lowerChar c, 128 ≤ d.toNat ∨ d = 'k' := by
  cases several : lowerExpansions.lookup c.toNat with
  | some image =>
      have dotted : image = ['i', '\u0307'] := by
        rw [lowerExpansions, List.lookup] at several
        split at several <;> cases several
        rfl
      have small : IsSmall 'i' ∧ IsSmall '\u0307' :=
        ⟨⟨by decide, by decide⟩, by decide, by decide +kernel⟩
      rw [lowerChar, if_neg beyond, several, dotted]
      refine ⟨fun d member => ?_, '\u0307', by simp, .inl (by decide)⟩
      rcases List.mem_cons.mp member with rfl | member
      · exact small.1
      · rw [List.mem_singleton.mp member]
        exact small.2
  | none =>
      cases moved : CaseRun.move? lowerRuns c.toNat with
      | some m =>
          obtain ⟨run, member, held, image⟩ := CaseRun.of_move? moved
          obtain ⟨small, place⟩ := isSmall_image member held
          rw [image] at small place
          rw [lowerChar, if_neg beyond, several, moved]
          refine ⟨fun d member => ?_, _, List.mem_singleton_self _, place⟩
          rwa [List.mem_singleton.mp member]
      | none =>
          have same : lowerChar c = [c] := by rw [lowerChar, if_neg beyond, several, moved]
          rw [same]
          refine ⟨fun d member => ?_, c, List.mem_singleton_self c, .inl (by omega)⟩
          rw [List.mem_singleton.mp member]
          exact ⟨plain, same⟩

theorem isSmall_of_mem_lowerChar (plain : c ≠ 'Σ') (member : d ∈ lowerChar c) : IsSmall d := by
  by_cases ascii : c.toNat < 128
  · rw [lowerChar_of_ascii ascii] at member
    rw [List.mem_singleton.mp member]
    exact isSmall_toLower ascii
  · exact (lowerChar_of_not_ascii ascii plain).1 d member

end

/-! ## Texts -/

/-- What becomes of the first character of a text. The two small forms of sigma are small letters
beyond ASCII. -/
theorem exists_lowerFrom_cons (before : List Char) (c : Char) (cs : List Char) :
    ∃ small, lowerFrom before (c :: cs) = small ++ lowerFrom (c :: before) cs ∧
      (∀ d ∈ small, IsSmall d) ∧
      (¬ c.toNat < 128 → ∃ d ∈ small, 128 ≤ d.toNat ∨ d = 'k') := by
  by_cases sigma : c = 'Σ'
  · have forms : IsSmall 'ς' ∧ IsSmall 'σ' :=
      ⟨⟨by decide, by decide +kernel⟩, by decide, by decide +kernel⟩
    rw [lowerFrom, if_pos (by simpa using sigma)]
    refine ⟨_, rfl, ?_⟩
    split
    · refine ⟨fun d member => ?_, fun _ => ⟨'ς', List.mem_singleton_self _, .inl (by decide)⟩⟩
      rw [List.mem_singleton.mp member]
      exact forms.1
    · refine ⟨fun d member => ?_, fun _ => ⟨'σ', List.mem_singleton_self _, .inl (by decide)⟩⟩
      rw [List.mem_singleton.mp member]
      exact forms.2
  · rw [lowerFrom, if_neg (by simpa using sigma)]
    exact ⟨_, rfl, fun d => isSmall_of_mem_lowerChar sigma,
      fun beyond => (lowerChar_of_not_ascii beyond sigma).2⟩

theorem isSmall_of_mem_lowerFrom {before cs : List Char} {d : Char}
    (member : d ∈ lowerFrom before cs) : IsSmall d := by
  induction cs generalizing before with
  | nil => cases member
  | cons c cs ih =>
      obtain ⟨small, same, letters, _⟩ := exists_lowerFrom_cons before c cs
      rw [same] at member
      rcases List.mem_append.mp member with first | later
      · exact letters d first
      · exact ih later

theorem isSmall_of_mem_lower {s : String} {d : Char} (member : d ∈ (lower s).toList) :
    IsSmall d := by
  rw [lower, String.toList_ofList] at member
  exact isSmall_of_mem_lowerFrom member

theorem lowerFrom_of_small {cs : List Char} (small : ∀ c ∈ cs, IsSmall c) (before : List Char) :
    lowerFrom before cs = cs := by
  induction cs generalizing before with
  | nil => rfl
  | cons c cs ih =>
      obtain ⟨plain, same⟩ := small c List.mem_cons_self
      rw [lowerFrom, if_neg (by simpa using plain), same,
        ih (fun d later => small d (List.mem_cons_of_mem _ later))]
      rfl

theorem lower_lower (s : String) : lower (lower s) = lower s := by
  have same := lowerFrom_of_small (fun d (member : d ∈ (lower s).toList) =>
    isSmall_of_mem_lower member) []
  rw [lower, same, String.ofList_toList]

theorem lowerFrom_of_ascii {cs : List Char} (ascii : isAscii cs = true) (before : List Char) :
    lowerFrom before cs = cs.map Char.toLower := by
  induction cs generalizing before with
  | nil => rfl
  | cons c cs ih =>
      simp only [isAscii, List.all_cons, Bool.and_eq_true, decide_eq_true_eq] at ascii
      have plain : ¬ (c == 'Σ') = true := by
        intro sigma
        rw [eq_of_beq sigma] at ascii
        exact absurd ascii.1 (by decide)
      rw [lowerFrom, if_neg plain, lowerChar_of_ascii ascii.1, ih ascii.2]
      rfl

theorem lower_of_ascii {s : String} (ascii : isAscii s.toList = true) :
    lower s = asciiLower s := by
  rw [lower, lowerFrom_of_ascii ascii, asciiLower]

theorem isAscii_of_lowerFrom {before cs : List Char}
    (plain : ∀ d ∈ lowerFrom before cs, d.toNat < 128 ∧ d ≠ 'k') : isAscii cs = true := by
  induction cs generalizing before with
  | nil => rfl
  | cons c cs ih =>
      obtain ⟨small, same, _, place⟩ := exists_lowerFrom_cons before c cs
      rw [same] at plain
      have first : c.toNat < 128 := by
        by_contra beyond
        obtain ⟨d, member, far | letter⟩ := place beyond
        · exact absurd (plain d (List.mem_append_left _ member)).1 (by omega)
        · exact (plain d (List.mem_append_left _ member)).2 letter
      have rest := ih fun d later => plain d (List.mem_append_right _ later)
      simpa [isAscii, first] using rest

/-- Only one text without capitals of ASCII has a small form that is ASCII text without a `k`. -/
theorem lower_eq_iff {name target : String} (fixed : asciiLower name = name)
    (plain : ∀ d ∈ target.toList, d.toNat < 128 ∧ d ≠ 'k') :
    lower name = target ↔ name = target := by
  have ascii : ∀ d ∈ target.toList, d.toNat < 128 := fun d member => (plain d member).1
  constructor
  · intro same
    have chars : lowerFrom [] name.toList = target.toList := by
      rw [← same, lower, String.toList_ofList]
    rw [← chars] at plain
    rw [← same, lower_of_ascii (isAscii_of_lowerFrom plain), fixed]
  · rintro rfl
    rw [lower_of_ascii (by simpa [isAscii] using ascii), fixed]

end BucketRegion.Text
