import BucketRegion.Bytes.Utf8

/-!
# Base 64

Octets as text of four characters for every three octets.
-/

set_option autoImplicit false

namespace BucketRegion.Base64

/-- The character of a number below sixty-four. -/
def digit (n : Nat) : Char :=
  if n < 26 then Char.ofNat (0x41 + n)
  else if n < 52 then Char.ofNat (0x61 + (n - 26))
  else if n < 62 then Char.ofNat (0x30 + (n - 52))
  else if n == 62 then '+'
  else '/'

/-- The number of a character. -/
def value? (c : Char) : Option Nat :=
  if 'A' ≤ c && c ≤ 'Z' then some (c.toNat - 0x41)
  else if 'a' ≤ c && c ≤ 'z' then some (c.toNat - 0x61 + 26)
  else if '0' ≤ c && c ≤ '9' then some (c.toNat - 0x30 + 52)
  else if c == '+' then some 62
  else if c == '/' then some 63
  else none

def encodeChars : Bytes → List Char
  | [] => []
  | [a] => [digit (a.toNat / 4), digit (a.toNat % 4 * 16), '=', '=']
  | [a, b] =>
      [digit (a.toNat / 4), digit (a.toNat % 4 * 16 + b.toNat / 16), digit (b.toNat % 16 * 4), '=']
  | a :: b :: c :: rest =>
      digit (a.toNat / 4) :: digit (a.toNat % 4 * 16 + b.toNat / 16) ::
        digit (b.toNat % 16 * 4 + c.toNat / 64) :: digit (c.toNat % 64) :: encodeChars rest

def encode (octets : Bytes) : String :=
  String.ofList (encodeChars octets)

/-- Octets from the numbers of four characters each; a last group of two or three gives one
or two octets. -/
def octetsOf : List Nat → Bytes
  | a :: b :: c :: d :: rest =>
      (a * 4 + b / 16).toUInt8 :: (b % 16 * 16 + c / 4).toUInt8 ::
        (c % 4 * 64 + d).toUInt8 :: octetsOf rest
  | [a, b, c] => [(a * 4 + b / 16).toUInt8, (b % 16 * 16 + c / 4).toUInt8]
  | [a, b] => [(a * 4 + b / 16).toUInt8]
  | _ => []

/-- Reads base 64; characters that are no digits, the padding among them, are passed over. -/
def decode (s : String) : Bytes :=
  octetsOf (s.toList.filterMap value?)

end BucketRegion.Base64
