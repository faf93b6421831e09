import BucketRegion.Decimal.Power

/-!
# Binary floating point

The numbers of the 64-bit binary format as exact fractions: every finite one is a signed whole
number times a power of two. Rounding a fraction to the format goes to the nearest number, and
to the even one of two that are equally near.
-/

set_option autoImplicit false

namespace BucketRegion.Decimal

/-- What the bits of a floating-point number mean; a finite magnitude is
`significand * 2 ^ exponent`. -/
inductive Binary64 where
  | finite (negative : Bool) (significand : Nat) (exponent : Int)
  | infinite (negative : Bool)
  | notANumber

namespace Binary64

def ofFloat (x : Float) : Binary64 :=
  let bits := x.toBits.toNat
  let negative := bits / twoTo 63 == 1
  let field := bits / twoTo 52 % twoTo 11
  let fraction := bits % twoTo 52
  if field == 0x7FF then
    if fraction == 0 then .infinite negative else .notANumber
  else if field == 0 then .finite negative fraction (-1074)
  else .finite negative (twoTo 52 + fraction) (Int.ofNat field - 1075)

/-- The quotient nearest to `num / den`, the even one of two that are equally near. -/
def roundDiv (num den : Nat) : Nat :=
  let quotient := num / den
  let twice := 2 * (num % den)
  if twice < den then quotient
  else if den < twice then quotient + 1
  else quotient + quotient % 2

/-- Numerator and denominator of `num / den * 2 ^ -shift`. -/
def scaled (num den : Nat) (shift : Int) : Nat × Nat :=
  if shift < 0 then (num * twoTo (-shift).toNat, den) else (num, den * twoTo shift.toNat)

/-- The bits of the number nearest to `num / den`; none if it is beyond the largest one. -/
def bitsOfRatio? (num den : Nat) : Option Nat :=
  if num == 0 then some 0
  else
    let guess : Int := Int.ofNat num.log2 - Int.ofNat den.log2 - 52
    -- the true exponent is the guess or one less
    let (n, d) := scaled num den guess
    let exact := if n < d * twoTo 52 then guess - 1 else guess
    let exponent := max exact (-1074)
    let (n, d) := scaled num den exponent
    let rounded := roundDiv n d
    let (significand, exponent) :=
      if rounded == twoTo 53 then (twoTo 52, exponent + 1) else (rounded, exponent)
    if exponent > 971 then none
    else if significand < twoTo 52 then some significand
    else some ((exponent + 1075).toNat * twoTo 52 + (significand - twoTo 52))

/-- Sets the sign of the number with these bits. -/
def floatOfBits (negative : Bool) (bits : Nat) : Float :=
  Float.ofBits (UInt64.ofNat (bits + if negative then twoTo 63 else 0))

def infinityBits : Nat := 0x7FF * twoTo 52

def notANumberBits : Nat := 0x7FF * twoTo 52 + twoTo 51

/-- The number nearest to an integer; none beyond the largest number. -/
def floatOfInt? (n : Int) : Option Float :=
  (bitsOfRatio? n.natAbs 1).map (floatOfBits (n < 0))

/-- The number nearest to `digits * 10 ^ exponent`, infinite beyond the largest number. Exponents
that decide the answer on their own are not multiplied out. -/
def floatOfDecimal (negative : Bool) (digits : Nat) (exponent : Int) : Float :=
  let size := Int.ofNat (digits.log2 / 3) + exponent
  let bits :=
    if digits == 0 then 0
    else if exponent > 400 then infinityBits
    else if size < -800 then 0
    else
      let (num, den) :=
        if exponent < 0 then (digits, tenTo (-exponent).toNat)
        else (digits * tenTo exponent.toNat, 1)
      (bitsOfRatio? num den).getD infinityBits
  floatOfBits negative bits

/-- The whole number next to a finite number on the side of zero. -/
def truncate (negative : Bool) (significand : Nat) (exponent : Int) : Int :=
  let magnitude : Nat :=
    if exponent < 0 then significand / twoTo (-exponent).toNat
    else significand * twoTo exponent.toNat
  if negative then -Int.ofNat magnitude else Int.ofNat magnitude

end Binary64

end BucketRegion.Decimal
