import BucketRegion.Bytes.Utf8
import Mathlib.Logic.Function.Basic

/-!
# Reading UTF-8

The octets of a text are read as that text, with or without replacement characters.
-/

set_option autoImplicit false

namespace BucketRegion.Utf8

theorem toNat_toUInt8 {n : Nat} (small : n < 0x100) : n.toUInt8.toNat = n := by
  rw [UInt8.toNat_ofNat']
  exact Nat.mod_eq_of_lt small

/-- A number in the range of the octets that follow the first one of a character. -/
theorem isContinuation_toUInt8 (n : Nat) : isContinuation (0x80 + n % 0x40).toUInt8 = true := by
  have number : (0x80 + n % 0x40).toUInt8.toNat = 0x80 + n % 0x40 :=
    toNat_toUInt8 (by omega)
  simp only [isContinuation, UInt8.le_iff_toNat_le, number, Bool.and_eq_true, decide_eq_true_eq,
    UInt8.reduceToNat]
  omega

theorem payload_toUInt8 (n : Nat) : payload (0x80 + n % 0x40).toUInt8 = n % 0x40 := by
  rw [payload, toNat_toUInt8 (by omega)]
  omega

theorem valid_toNat (c : Char) : c.toNat < 0xD800 ∨ 0xDFFF < c.toNat ∧ c.toNat < 0x110000 :=
  c.valid

theorem head_two {n : Nat} (long : 0x80 ≤ n) (short : n < 0x800) (rest : Bytes) :
    head (0xC0 + n / 0x40).toUInt8 ((0x80 + n % 0x40).toUInt8 :: rest) =
      .char (Char.ofNat n) 2 := by
  have lead : (0xC0 + n / 0x40).toUInt8.toNat = 0xC0 + n / 0x40 := toNat_toUInt8 (by omega)
  have bounds : ¬ (0xC0 + n / 0x40).toUInt8 < 0x80 ∧ ¬ (0xC0 + n / 0x40).toUInt8 < 0xC2 ∧
      (0xC0 + n / 0x40).toUInt8 < 0xE0 := by
    simp only [UInt8.lt_iff_toNat_lt, lead, UInt8.reduceToNat]
    omega
  have number : (0xC0 + n / 0x40) % 0x20 * 0x40 + n % 0x40 = n := by omega
  rw [head, if_neg bounds.1, if_neg bounds.2.1, if_pos bounds.2.2]
  simp only [isContinuation_toUInt8, if_true, payload_toUInt8, lead, number]

theorem canFollow_toUInt8 {lead : Nat} (small : lead < 0x100) (n : Nat)
    (least : lead = 0xE0 → 0x20 ≤ n % 0x40) (pair : lead = 0xED → n % 0x40 < 0x20)
    (first : lead = 0xF0 → 0x10 ≤ n % 0x40) (last : lead = 0xF4 → n % 0x40 < 0x10) :
    canFollow lead.toUInt8 (0x80 + n % 0x40).toUInt8 = true := by
  have number : (0x80 + n % 0x40).toUInt8.toNat = 0x80 + n % 0x40 := toNat_toUInt8 (by omega)
  have octet := toNat_toUInt8 small
  have named (k : Nat) (short : k < 0x100) : lead.toUInt8 = k.toUInt8 ↔ lead = k := by
    rw [← UInt8.toNat_inj, octet, toNat_toUInt8 short]
  rw [canFollow, isContinuation_toUInt8, Bool.true_and]
  simp only [beq_iff_eq, UInt8.le_iff_toNat_le, UInt8.lt_iff_toNat_lt, number]
  split
  · next same =>
      have bound := least ((named 0xE0 (by decide)).mp same)
      exact decide_eq_true (show 0xA0 ≤ _ by omega)
  · split
    · next same =>
        have bound := pair ((named 0xED (by decide)).mp same)
        exact decide_eq_true (show _ < 0xA0 by omega)
    · split
      · next same =>
          have bound := first ((named 0xF0 (by decide)).mp same)
          exact decide_eq_true (show 0x90 ≤ _ by omega)
      · split
        · next same =>
            have bound := last ((named 0xF4 (by decide)).mp same)
            exact decide_eq_true (show _ < 0x90 by omega)
        · rfl

theorem head_three {n : Nat} (long : 0x800 ≤ n) (short : n < 0x10000)
    (valid : n < 0xD800 ∨ 0xDFFF < n) (rest : Bytes) :
    head (0xE0 + n / 0x1000).toUInt8
        ((0x80 + n / 0x40 % 0x40).toUInt8 :: (0x80 + n % 0x40).toUInt8 :: rest) =
      .char (Char.ofNat n) 3 := by
  have lead : (0xE0 + n / 0x1000).toUInt8.toNat = 0xE0 + n / 0x1000 := toNat_toUInt8 (by omega)
  have bounds : ¬ (0xE0 + n / 0x1000).toUInt8 < 0x80 ∧ ¬ (0xE0 + n / 0x1000).toUInt8 < 0xC2 ∧
      ¬ (0xE0 + n / 0x1000).toUInt8 < 0xE0 ∧ (0xE0 + n / 0x1000).toUInt8 < 0xF0 := by
    simp only [UInt8.lt_iff_toNat_lt, lead, UInt8.reduceToNat]
    omega
  have follows : canFollow (0xE0 + n / 0x1000).toUInt8 (0x80 + n / 0x40 % 0x40).toUInt8 = true := by
    apply canFollow_toUInt8 <;> omega
  have number : (0xE0 + n / 0x1000) % 0x10 * 0x1000 + n / 0x40 % 0x40 * 0x40 + n % 0x40 = n := by
    omega
  rw [head, if_neg bounds.1, if_neg bounds.2.1, if_neg bounds.2.2.1, if_pos bounds.2.2.2]
  simp only [follows, isContinuation_toUInt8, Bool.not_true, Bool.false_eq_true, if_false,
    payload_toUInt8, lead, number]

theorem head_four {n : Nat} (long : 0x10000 ≤ n) (short : n < 0x110000) (rest : Bytes) :
    head (0xF0 + n / 0x40000).toUInt8
        ((0x80 + n / 0x1000 % 0x40).toUInt8 :: (0x80 + n / 0x40 % 0x40).toUInt8 ::
          (0x80 + n % 0x40).toUInt8 :: rest) =
      .char (Char.ofNat n) 4 := by
  have lead : (0xF0 + n / 0x40000).toUInt8.toNat = 0xF0 + n / 0x40000 := toNat_toUInt8 (by omega)
  have bounds : ¬ (0xF0 + n / 0x40000).toUInt8 < 0x80 ∧ ¬ (0xF0 + n / 0x40000).toUInt8 < 0xC2 ∧
      ¬ (0xF0 + n / 0x40000).toUInt8 < 0xE0 ∧ ¬ (0xF0 + n / 0x40000).toUInt8 < 0xF0 ∧
      (0xF0 + n / 0x40000).toUInt8 < 0xF5 := by
    simp only [UInt8.lt_iff_toNat_lt, lead, UInt8.reduceToNat]
    omega
  have follows :
      canFollow (0xF0 + n / 0x40000).toUInt8 (0x80 + n / 0x1000 % 0x40).toUInt8 = true := by
    apply canFollow_toUInt8 <;> omega
  have number : (0xF0 + n / 0x40000) % 8 * 0x40000 + n / 0x1000 % 0x40 * 0x1000 +
      n / 0x40 % 0x40 * 0x40 + n % 0x40 = n := by
    omega
  rw [head, if_neg bounds.1, if_neg bounds.2.1, if_neg bounds.2.2.1, if_neg bounds.2.2.2.1,
    if_pos bounds.2.2.2.2]
  simp only [follows, isContinuation_toUInt8, Bool.not_true, Bool.false_eq_true, if_false,
    payload_toUInt8, lead, number]

/-- The octets of a character start with that character. -/
theorem exists_encodeChar (c : Char) :
    ∃ lead more, encodeChar c = lead :: more ∧
      ∀ rest, head lead (more ++ rest) = .char c (more.length + 1) := by
  have valid := valid_toNat c
  have number := Char.ofNat_toNat c
  unfold encodeChar
  dsimp only
  split
  · next ascii =>
      have octet : c.toNat.toUInt8.toNat = c.toNat := toNat_toUInt8 (by omega)
      refine ⟨_, [], rfl, fun rest => ?_⟩
      rw [head.eq_def, if_pos (UInt8.lt_iff_toNat_lt.mpr (by rw [octet]; exact ascii)), octet, number]
      rfl
  · split
    · refine ⟨_, [_], rfl, fun rest => ?_⟩
      rw [List.cons_append, head_two (by omega) (by omega), number]
      rfl
    · split
      · refine ⟨_, [_, _], rfl, fun rest => ?_⟩
        rw [List.cons_append, List.cons_append, head_three (by omega) (by omega) (by omega), number]
        rfl
      · refine ⟨_, [_, _, _], rfl, fun rest => ?_⟩
        rw [List.cons_append, List.cons_append, List.cons_append,
          head_four (by omega) (by omega), number]
        rfl

theorem decodeReplacing_append (c : Char) (rest : Bytes) :
    decodeReplacing (encodeChar c ++ rest) = c :: decodeReplacing rest := by
  obtain ⟨lead, more, octets, starts⟩ := exists_encodeChar c
  rw [octets, List.cons_append, decodeReplacing, starts]
  simp

/-- Octets of a text are read as that text, and none is replaced. -/
theorem decodeReplacing_encodeChars (cs : List Char) : decodeReplacing (encodeChars cs) = cs := by
  induction cs with
  | nil => rw [encodeChars, List.flatMap_nil, decodeReplacing]
  | cons c cs ih =>
      rw [encodeChars, List.flatMap_cons, decodeReplacing_append, ← encodeChars, ih]

theorem decodeFrom_encodeChars (position : Nat) (cs : List Char) :
    decodeFrom position (encodeChars cs) = .ok cs := by
  induction cs generalizing position with
  | nil => rw [encodeChars, List.flatMap_nil, decodeFrom]
  | cons c cs ih =>
      obtain ⟨lead, more, octets, starts⟩ := exists_encodeChar c
      have rest : (more ++ encodeChars cs).drop more.length = encodeChars cs := List.drop_left
      rw [encodeChars, List.flatMap_cons, ← encodeChars, octets, List.cons_append, decodeFrom,
        starts]
      simp only [Nat.add_sub_cancel, rest, ih]

/-- Octets of a text are read as that text. -/
theorem decode_encode (s : String) : decode (encode s) = .ok s.toList :=
  decodeFrom_encodeChars 0 s.toList

end BucketRegion.Utf8
