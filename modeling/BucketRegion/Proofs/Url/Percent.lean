import BucketRegion.Proofs.Bytes.Utf8
import BucketRegion.Proofs.Endpoint

/-!
# Reading percent-encoded text

Text whose unsafe characters are encoded is read as the text that it was, so the segments of two
names differ.
-/

set_option autoImplicit false

namespace BucketRegion.Url

theorem hexValue?_hexDigitUpper {n : Nat} (small : n < 16) :
    Text.hexValue? (Text.hexDigitUpper n) = some n := by
  have table : ∀ n < 16, Text.hexValue? (Text.hexDigitUpper n) = some n := by decide
  exact table n small

theorem decodeRun_percentOctet (run : Bytes) (octet : UInt8) (rest : List Char) :
    decodeRun run (percentOctet octet ++ rest) = decodeRun (octet :: run) rest := by
  have bound : octet.toNat < 256 := octet.toNat_lt
  have high : Text.hexValue? (Text.hexDigitUpper (octet.toNat / 16)) = some (octet.toNat / 16) :=
    hexValue?_hexDigitUpper (by omega)
  have low : Text.hexValue? (Text.hexDigitUpper (octet.toNat % 16)) = some (octet.toNat % 16) :=
    hexValue?_hexDigitUpper (by omega)
  have whole : (16 * (octet.toNat / 16) + octet.toNat % 16).toUInt8 = octet := by
    rw [Nat.div_add_mod]
    exact UInt8.ofNat_toNat
  rw [percentOctet, List.cons_append, List.cons_append, List.cons_append, List.nil_append,
    decodeRun, high, low]
  dsimp only
  rw [whole]

theorem decodeRun_percentOctets (octets run : Bytes) (rest : List Char) :
    decodeRun run (octets.flatMap percentOctet ++ rest) =
      decodeRun (octets.reverse ++ run) rest := by
  induction octets generalizing run with
  | nil => rfl
  | cons octet octets ih =>
      rw [List.flatMap_cons, List.append_assoc, decodeRun_percentOctet, ih, List.reverse_cons,
        List.append_assoc]
      rfl

theorem decodeRun_cons_of_ascii {c : Char} (ascii : c.toNat < 0x80) (bare : c ≠ '%')
    (run : Bytes) (rest : List Char) :
    decodeRun run (c :: rest) = decodeRun (c.toNat.toUInt8 :: run) rest := by
  rw [decodeRun, if_pos ascii]
  rintro a b more rfl
  exact absurd rfl bare

section

variable {safe : Char → Bool} (plain : ∀ c, safe c = true → c.toNat < 0x80 ∧ c ≠ '%')

include plain

/-- What has been read before and what is encoded are read together. -/
theorem decodeRun_encodeUnsafe (cs : List Char) (run : Bytes) :
    decodeRun run (encodeUnsafe safe cs) =
      Utf8.decodeReplacing (run.reverse ++ Utf8.encodeChars cs) := by
  induction cs generalizing run with
  | nil =>
      rw [encodeUnsafe, Utf8.encodeChars, List.flatMap_nil, List.flatMap_nil, decodeRun,
        List.append_nil]
  | cons c cs ih =>
      have next : decodeRun run (encodeUnsafe safe (c :: cs)) =
          decodeRun ((Utf8.encodeChar c).reverse ++ run) (encodeUnsafe safe cs) := by
        rw [encodeUnsafe, List.flatMap_cons, ← encodeUnsafe]
        split
        · next stays =>
            obtain ⟨ascii, bare⟩ := plain c stays
            have octet : Utf8.encodeChar c = [c.toNat.toUInt8] := by
              rw [Utf8.encodeChar]
              exact if_pos ascii
            rw [octet, List.singleton_append, decodeRun_cons_of_ascii ascii bare]
            rfl
        · exact decodeRun_percentOctets _ _ _
      rw [next, ih, List.reverse_append, List.reverse_reverse, List.append_assoc,
        Utf8.encodeChars, Utf8.encodeChars, List.flatMap_cons]

theorem decodeChars_encodeUnsafe (cs : List Char) : decodeChars (encodeUnsafe safe cs) = cs := by
  rw [decodeChars, decodeRun_encodeUnsafe plain, List.reverse_nil, List.nil_append,
    Utf8.decodeReplacing_encodeChars]

end

theorem plain_of_isUnreserved (c : Char) (unreserved : isUnreserved c = true) :
    c.toNat < 0x80 ∧ c ≠ '%' := by
  have ascii : c.toNat < 128 := ascii_of_isHostChar (by simp [isHostChar, unreserved])
  refine ⟨ascii, ?_⟩
  rintro rfl
  exact absurd unreserved (by decide)

/-- The segment of a name is read as that name. -/
theorem decodeText_encodeSegment (name : String) : decodeText (encodeSegment name) = name := by
  rw [decodeText, toList_encodeSegment, decodeChars_encodeUnsafe plain_of_isUnreserved,
    String.ofList_toList]

theorem encodeSegment_injective : Function.Injective encodeSegment :=
  Function.LeftInverse.injective decodeText_encodeSegment

end BucketRegion.Url
