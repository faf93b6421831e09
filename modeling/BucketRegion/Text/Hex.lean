/-!
# Hexadecimal text

Numbers and octets in base sixteen.
-/

set_option autoImplicit false

namespace BucketRegion.Text

/-- The small hexadecimal digit of a number below sixteen. -/
def hexDigit (n : Nat) : Char :=
  if n < 10 then Char.ofNat (0x30 + n) else Char.ofNat (0x57 + n)

/-- The capital hexadecimal digit of a number below sixteen. -/
def hexDigitUpper (n : Nat) : Char :=
  if n < 10 then Char.ofNat (0x30 + n) else Char.ofNat (0x37 + n)

/-- The last `width` hexadecimal digits of a number. -/
def hexPadded : Nat → Nat → List Char
  | 0, _ => []
  | width + 1, n => hexPadded width (n / 16) ++ [hexDigit (n % 16)]

/-- The two hexadecimal digits of each octet. -/
def hexOctets (octets : List UInt8) : List Char :=
  octets.flatMap fun b => [hexDigit (b.toNat / 16), hexDigit (b.toNat % 16)]

end BucketRegion.Text
