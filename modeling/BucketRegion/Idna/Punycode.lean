import BucketRegion.Text.Loose

/-!
# Punycode

Labels with any characters as letters, digits and hyphens of ASCII: the characters of ASCII come
first, and the others are told by where they go, as numbers of variable length in base 36. What is
read may have surrogates in it.
-/

set_option autoImplicit false

namespace BucketRegion.Idna.Punycode

/-- The character of a digit: letters, then decimal digits. -/
def digitChar (d : Nat) : Char :=
  if d < 26 then Char.ofNat (0x61 + d) else Char.ofNat (0x30 + (d - 26))

/-- The value of a digit. -/
def digitValue? (c : Char) : Option Nat :=
  let n := c.toNat
  if 0x61 ≤ n && n ≤ 0x7A then some (n - 0x61)
  else if 0x41 ≤ n && n ≤ 0x5A then some (n - 0x41)
  else if 0x30 ≤ n && n ≤ 0x39 then some (n - 0x30 + 26)
  else none

/-- A digit at or above the threshold of its place is followed by another. -/
def threshold (place bias : Nat) : Nat :=
  if place ≤ bias then 1 else if bias + 26 ≤ place then 26 else place - bias

/-- Divides until the distance is small, and counts the divisions by 36. -/
def shrink (delta count : Nat) : Nat × Nat :=
  if 455 < delta then shrink (delta / 35) (count + 36) else (delta, count)
termination_by delta
decreasing_by exact Nat.div_lt_self (by omega) (by omega)

/-- The bias for the next number, after one that led to a text of `size` characters. -/
def adapt (delta size : Nat) (first : Bool) : Nat :=
  let halved := if first then delta / 700 else delta / 2
  let (delta, count) := shrink (halved + halved / size) 0
  count + 36 * delta / (delta + 38)

/-- The digits of a number from a place on; `fuel` bounds their count. -/
def digitsFrom : Nat → Nat → Nat → Nat → List Char
  | 0, _, _, _ => []
  | fuel + 1, bias, place, n =>
      let t := threshold place bias
      if n < t then [digitChar n]
      else digitChar (t + (n - t) % (36 - t)) ::
        digitsFrom fuel bias (place + 36) ((n - t) / (36 - t))

/-- What has been written, and from where the next distance counts. -/
structure Encoder where
  written : List Char
  delta : Nat
  bias : Nat
  handled : Nat

/-- Passes one character while the code point `next` is being placed. -/
def pass (base next : Nat) (e : Encoder) (n : Nat) : Encoder :=
  if n < next then { e with delta := e.delta + 1 }
  else if n == next then
    ⟨e.written ++ digitsFrom (e.delta + 1) e.bias 36 e.delta, 0,
      adapt e.delta (e.handled + 1) (e.handled == base), e.handled + 1⟩
  else e

/-- Places the code points of an ascending list, `current` being the least that may come. -/
def placeAll (codes : List Nat) (base : Nat) : Nat → List Nat → Encoder → Encoder
  | _, [], e => e
  | current, next :: more, e =>
      let e := { e with delta := e.delta + (next - current) * (e.handled + 1) }
      let e := codes.foldl (pass base next) e
      placeAll codes base (next + 1) more { e with delta := e.delta + 1 }

/-- The characters of a label as Punycode, without the mark in front. -/
def encode (cs : List Char) : List Char :=
  let plain := cs.filter fun c => c.toNat < 0x80
  let others := ((cs.map Char.toNat).filter (0x80 ≤ ·)).mergeSort.eraseDups
  let base := plain.length
  let e := placeAll (cs.map Char.toNat) base 0x80 others ⟨[], 0, 72, base⟩
  if plain.isEmpty then e.written else plain ++ '-' :: e.written

/-- Reads a number from a place on: its value and what follows it. -/
def readNumber? (bias : Nat) : Nat → Nat → Nat → List Char → Option (Nat × List Char)
  | _, _, _, [] => none
  | place, weight, value, c :: rest =>
      (digitValue? c).bind fun digit =>
        let value := value + digit * weight
        let t := threshold place bias
        if digit < t then some (value, rest)
        else readNumber? bias (place + 36) (weight * (36 - t)) value rest

/-- Places the code points that numbers tell, after `text` was read; `fuel` bounds their count. -/
def insertAll : Nat → Text.Loose → Nat → Nat → Nat → Bool → List Char → Option Text.Loose
  | 0, text, _, _, _, _, _ => some text
  | fuel + 1, text, code, position, bias, first, input =>
      if input.isEmpty then some text
      else
        (readNumber? bias 36 1 0 input).bind fun (delta, rest) =>
          let position := position + delta
          let size := text.length + 1
          let code := code + position / size
          if 0x10FFFF < code then none
          else
            let position := position % size
            let text := text.take position ++ .ofNat code :: text.drop position
            insertAll fuel text code (position + 1) (adapt delta text.length first) false rest

/-- Reads Punycode without the mark in front: what stands before the last hyphen is taken as it
is. -/
def decode? (cs : List Char) : Option Text.Loose :=
  let afterHyphen := (cs.reverse.takeWhile (· != '-')).reverse
  let before := cs.take (cs.length - afterHyphen.length)
  insertAll (afterHyphen.length + 1) (.ofChars before.dropLast) 0x80 0 72 true afterHyphen

end BucketRegion.Idna.Punycode
