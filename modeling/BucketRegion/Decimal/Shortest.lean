import BucketRegion.Decimal.Binary64
import BucketRegion.Decimal.Natural

/-!
# Shortest decimal text

The fewest digits that read back as the same floating-point number, and of those the nearest;
then their layout.
-/

set_option autoImplicit false

namespace BucketRegion.Decimal

/-- A positive decimal number `coefficient * 10 ^ exponent`. -/
structure Scientific where
  coefficient : Nat
  exponent : Int

/-- The numbers that round to one floating-point number, as multiples of `2 ^ exponent`. -/
structure Interval where
  low : Nat
  value : Nat
  high : Nat
  exponent : Int
  closed : Bool

namespace Interval

/-- The interval around `significand * 2 ^ exponent`: half way to the neighbours, where the lower
one is nearer at a power of two; the ends belong to it if the significand is even. -/
def around (significand : Nat) (exponent : Int) : Interval :=
  let nearer := significand == twoTo 52 && exponent > -1074
  ⟨4 * significand - (if nearer then 1 else 2), 4 * significand, 4 * significand + 2,
    exponent - 2, significand % 2 == 0⟩

/-- The value divided by `10 ^ place`, as numerator and denominator. -/
def ratio (i : Interval) (place : Int) (n : Nat) : Nat × Nat :=
  let num := if i.exponent < 0 then n else n * twoTo i.exponent.toNat
  let den := if i.exponent < 0 then twoTo (-i.exponent).toNat else 1
  if place < 0 then (num * tenTo (-place).toNat, den) else (num, den * tenTo place.toNat)

/-- Whether `coefficient * 10 ^ place` lies in the interval. -/
def holds (i : Interval) (place : Int) (coefficient : Nat) : Bool :=
  let (low, den) := i.ratio place i.low
  let (high, _) := i.ratio place i.high
  let n := coefficient * den
  if i.closed then low ≤ n && n ≤ high else low < n && n < high

/-- The better of the value's two neighbours on the grid of multiples of `10 ^ place`, if one of
them lies in the interval; an exact tie goes to the even one. -/
def neighbour? (i : Interval) (place : Int) : Option Nat :=
  let (num, den) := i.ratio place i.value
  let below := num / den
  let twice := 2 * (num % den)
  let belowIn := i.holds place below
  let aboveIn := i.holds place (below + 1)
  if belowIn && aboveIn then
    if twice < den then some below
    else if den < twice then some (below + 1)
    else some (below + below % 2)
  else if belowIn then some below
  else if aboveIn then some (below + 1)
  else none

/-- The exponent of the leading decimal digit, sought downwards from `place`. -/
def leading (i : Interval) : Nat → Int → Int
  | 0, place => place
  | fuel + 1, place =>
      let (num, den) := i.ratio place i.value
      if den ≤ num then place else leading i fuel (place - 1)

/-- Tries grids of one, two, … digits from the one of `place` on. -/
def search (i : Interval) : Nat → Int → Scientific
  | 0, place => let (num, den) := i.ratio place i.value; ⟨num / den, place⟩
  | fuel + 1, place =>
      match i.neighbour? place with
      | some n => if n == 0 then search i fuel (place - 1) else ⟨n, place⟩
      | none => search i fuel (place - 1)

end Interval

/-- The shortest decimal that rounds to a positive finite number. -/
def shortest (significand : Nat) (exponent : Int) : Scientific :=
  let i := Interval.around significand exponent
  i.search 17 (i.leading 700 309)

/-- The digits of a number without the zeros at its end. -/
def significantDigits (n : Nat) : List Char :=
  ((digits n).reverse.dropWhile (· == '0')).reverse

/-- How floating-point numbers are laid out: positionally while the point stands after at most
`most` digits and before at most `least` zeros, otherwise with an exponent. -/
structure FloatLayout where
  most : Int
  least : Int
  infinity : String
  notANumber : String

/-- Text of messages and answers: sixteen digits before the point, four places of zeros after
it. -/
def FloatLayout.plain : FloatLayout := ⟨16, -4, "inf", "nan"⟩

/-- Text of log lines. -/
def FloatLayout.logged : FloatLayout := ⟨16, -4, "Infinity", "NaN"⟩

/-- Digits with the point after the first `point` of them; at least one digit stands on either
side. -/
def layoutDigits (layout : FloatLayout) (ds : List Char) (point : Int) : List Char :=
  if layout.least < point && point ≤ layout.most then
    if point ≤ 0 then
      '0' :: '.' :: List.replicate (-point).toNat '0' ++ ds
    else
      let whole := ds.take point.toNat
      let zeros := List.replicate (point.toNat - whole.length) '0'
      let fraction := ds.drop point.toNat
      whole ++ zeros ++ '.' :: (if fraction.isEmpty then ['0'] else fraction)
  else
    let power := point - 1
    let mantissa :=
      match ds with
      | first :: more@(_ :: _) => first :: '.' :: more
      | _ => ds
    let size := digits power.natAbs
    let padded := if size.length < 2 then '0' :: size else size
    mantissa ++ 'e' :: (if power < 0 then '-' else '+') :: padded

/-- The shortest text of a floating-point number that reads back. -/
def floatText (layout : FloatLayout) (x : Float) : String :=
  match Binary64.ofFloat x with
  | .notANumber => layout.notANumber
  | .infinite negative => (if negative then "-" else "") ++ layout.infinity
  | .finite negative significand exponent =>
      let body :=
        if significand == 0 then ['0', '.', '0']
        else
          let d := shortest significand exponent
          let all := digits d.coefficient
          layoutDigits layout (significantDigits d.coefficient)
            (Int.ofNat all.length + d.exponent)
      String.ofList (if negative then '-' :: body else body)

end BucketRegion.Decimal
