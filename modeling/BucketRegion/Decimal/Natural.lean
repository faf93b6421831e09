/-!
# Decimal numerals

Whole numbers as decimal digits, and back.
-/

set_option autoImplicit false

namespace BucketRegion.Decimal

/-- The character of a number below ten. -/
def digit (n : Nat) : Char := Char.ofNat (0x30 + n)

/-- The decimal digits of a number, without leading zeros; zero is one digit. -/
def digits (n : Nat) : List Char :=
  if n < 10 then [digit n] else digits (n / 10) ++ [digit (n % 10)]

/-- The last `width` decimal digits of a number. -/
def digitsPadded : Nat → Nat → List Char
  | 0, _ => []
  | width + 1, n => digitsPadded width (n / 10) ++ [digit (n % 10)]

/-- The number that decimal digits denote. -/
def valueOf (ds : List Char) : Nat :=
  ds.foldl (fun n c => 10 * n + (c.toNat - 0x30)) 0

/-- The decimal text of an integer: a minus sign if it is negative, and its digits. -/
def integerChars : Int → List Char
  | .ofNat n => digits n
  | .negSucc n => '-' :: digits (n + 1)

def integerText (n : Int) : String :=
  String.ofList (integerChars n)

def naturalText (n : Nat) : String :=
  String.ofList (digits n)

def paddedText (width n : Nat) : String :=
  String.ofList (digitsPadded width n)

end BucketRegion.Decimal
