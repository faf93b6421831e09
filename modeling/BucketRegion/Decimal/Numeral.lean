import BucketRegion.Decimal.Binary64
import BucketRegion.Text.Blank
import BucketRegion.Text.Digit

/-!
# Reading numerals

Whole numbers and floating-point numbers from text: digits of every script, single underscores
between digits, a sign, and white space around.
-/

set_option autoImplicit false

namespace BucketRegion.Decimal

/-- White space around a numeral: the blanks of ASCII, and all blanks beyond ASCII. -/
def isNumeralBlank (c : Char) : Bool :=
  if c.toNat < 128 then (9 ≤ c.toNat && c.toNat ≤ 13) || c == ' ' else Text.isBlank c

/-- A text with the digits of all scripts written as those of ASCII and trimmed. -/
def plainNumeral (s : String) : List Char :=
  Text.trimWhile isNumeralBlank <| s.toList.map fun c =>
    match Text.digitValue? c with
    | some d => Char.ofNat (0x30 + d)
    | none => c

/-- The sign in front of a numeral, and the rest. -/
def splitSign : List Char → Bool × List Char
  | '-' :: rest => (true, rest)
  | '+' :: rest => (false, rest)
  | cs => (false, cs)

/-- Leaves out the underscores; none if one does not stand between two digits. -/
def dropUnderscores? : Bool → List Char → Option (List Char)
  | _, [] => some []
  | afterDigit, '_' :: rest =>
      match rest with
      | next :: _ =>
          if afterDigit && next.isDigit then dropUnderscores? false rest else none
      | [] => none
  | _, c :: rest => (dropUnderscores? c.isDigit rest).map (c :: ·)

/-- The longest numeral that is read, in digits. -/
def digitLimit : Nat := 4300

/-- Why a text is no whole number. -/
inductive NumeralError where
  | malformed (text : String)
  | tooLong (count : Nat)

/-- Reads a whole number. One with too many digits is refused before anything after the digits is
looked at. -/
def readInteger (s : String) : Except NumeralError Int :=
  let (negative, body) := splitSign (plainNumeral s)
  let belongs (c : Char) : Bool := c.isDigit || c == '_'
  match dropUnderscores? false (body.takeWhile belongs) with
  | none => .error (.malformed s)
  | some ds =>
      if digitLimit < ds.length then .error (.tooLong ds.length)
      else if ds.isEmpty || !body.all belongs then .error (.malformed s)
      else
        let n := ds.foldl (fun n c => 10 * n + (c.toNat - 0x30)) 0
        .ok (if negative then -Int.ofNat n else Int.ofNat n)

/-- The leading digits and what follows them. -/
def spanDigits (cs : List Char) : List Char × List Char :=
  (cs.takeWhile Char.isDigit, cs.dropWhile Char.isDigit)

/-- Reads an exponent, or nothing at all. -/
def readExponent? : List Char → Option Int
  | [] => some 0
  | e :: rest =>
      if e == 'e' || e == 'E' then
        let (negative, body) := splitSign rest
        if body.isEmpty || !body.all Char.isDigit then none
        else
          let n := body.foldl (fun n c => 10 * n + (c.toNat - 0x30)) 0
          some (if negative then -Int.ofNat n else Int.ofNat n)
      else none

/-- Reads the digits, point and exponent of an unsigned decimal number. -/
def readDecimal? (negative : Bool) (cs : List Char) : Option Float :=
  let (whole, afterWhole) := spanDigits cs
  let (fraction, afterFraction) :=
    match afterWhole with
    | '.' :: rest => spanDigits rest
    | _ => ([], afterWhole)
  if whole.isEmpty && fraction.isEmpty then none
  else
    (readExponent? afterFraction).map fun exponent =>
      let n := (whole ++ fraction).foldl (fun n c => 10 * n + (c.toNat - 0x30)) 0
      Binary64.floatOfDecimal negative n (exponent - Int.ofNat fraction.length)

/-- Reads a floating-point number; `inf`, `infinity` and `nan` count in any letter case. -/
def readFloat? (s : String) : Option Float :=
  (dropUnderscores? false (plainNumeral s)).bind fun cs =>
    let (negative, body) := splitSign cs
    let name := String.ofList (body.map Char.toLower)
    if name == "inf" || name == "infinity" then
      some (Binary64.floatOfBits negative Binary64.infinityBits)
    else if name == "nan" then some (Binary64.floatOfBits negative Binary64.notANumberBits)
    else readDecimal? negative body

end BucketRegion.Decimal
