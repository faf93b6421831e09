import BucketRegion.Decimal.Numeral
import BucketRegion.Text.Ranges
import BucketRegion.Value.Basic

/-!
# Reading JSON

The value that JSON text denotes. A number is an integer unless it has a fraction or an
exponent. Of fields with one name the last counts.
-/

set_option autoImplicit false

namespace BucketRegion.Json

def isSpace (c : Char) : Bool :=
  c == ' ' || c == '\t' || c == '\n' || c == '\r'

def skipSpace (cs : List Char) : List Char := cs.dropWhile isSpace

/-- The number of four hexadecimal digits, and what follows them. -/
def readUnit? : List Char → Option (Nat × List Char)
  | a :: b :: c :: d :: rest =>
      if [a, b, c, d].all fun x => (Text.hexValue? x).isSome then
        some (Text.hexNumber [a, b, c, d], rest)
      else none
  | _ => none

/-- An escaped character after `\u`: two units stand for one character beyond the first plane,
half of such a pair for the replacement character. -/
def readEscapedUnit? (cs : List Char) : Option (Char × List Char) :=
  (readUnit? cs).map fun (high, rest) =>
    if 0xD800 ≤ high && high < 0xDC00 then
      match rest with
      | '\\' :: 'u' :: more =>
          match readUnit? more with
          | some (low, after) =>
              if 0xDC00 ≤ low && low < 0xE000 then
                (Char.ofNat (0x10000 + (high - 0xD800) * 0x400 + (low - 0xDC00)), after)
              else ('\uFFFD', rest)
          | none => ('\uFFFD', rest)
      | _ => ('\uFFFD', rest)
    else if 0xDC00 ≤ high && high < 0xE000 then ('\uFFFD', rest)
    else (Char.ofNat high, rest)

/-- The characters up to the closing quotation mark, and what follows it; `fuel` bounds their
number. -/
def readChars? : Nat → List Char → Option (List Char × List Char)
  | 0, _ => none
  | fuel + 1, cs =>
      match cs with
      | [] => none
      | '"' :: rest => some ([], rest)
      | '\\' :: 'u' :: rest =>
          (readEscapedUnit? rest).bind fun (c, after) =>
            (readChars? fuel after).map fun (more, end_) => (c :: more, end_)
      | '\\' :: e :: rest =>
          let image : Option Char :=
            match e with
            | '"' => some '"'
            | '\\' => some '\\'
            | '/' => some '/'
            | 'b' => some '\x08'
            | 'f' => some '\x0c'
            | 'n' => some '\n'
            | 'r' => some '\r'
            | 't' => some '\t'
            | _ => none
          image.bind fun c =>
            (readChars? fuel rest).map fun (more, end_) => (c :: more, end_)
      | c :: rest => (readChars? fuel rest).map fun (more, end_) => (c :: more, end_)

/-- A text after its opening quotation mark. -/
def readText? (cs : List Char) : Option (String × List Char) :=
  (readChars? (cs.length + 1) cs).map fun (chars, rest) => (String.ofList chars, rest)

def isNumberChar (c : Char) : Bool :=
  c.isDigit || c == '-' || c == '+' || c == '.' || c == 'e' || c == 'E'

/-- A number. -/
def readNumber? (cs : List Char) : Option (Value × List Char) :=
  let chars := cs.takeWhile isNumberChar
  let rest := cs.dropWhile isNumberChar
  let (negative, body) := Decimal.splitSign chars
  if body.isEmpty then none
  else if body.all Char.isDigit then
    let n := body.foldl (fun n c => 10 * n + (c.toNat - 0x30)) 0
    some (.int (if negative then -Int.ofNat n else Int.ofNat n), rest)
  else (Decimal.readDecimal? negative body).map fun x => (.float x, rest)

mutual

/-- A value and what follows it; `fuel` bounds the depth and the number of its parts. -/
def readValue? : Nat → List Char → Option (Value × List Char)
  | 0, _ => none
  | fuel + 1, cs =>
      match skipSpace cs with
      | 'n' :: 'u' :: 'l' :: 'l' :: rest => some (.null, rest)
      | 't' :: 'r' :: 'u' :: 'e' :: rest => some (.bool true, rest)
      | 'f' :: 'a' :: 'l' :: 's' :: 'e' :: rest => some (.bool false, rest)
      | '"' :: rest => (readText? rest).map fun (s, after) => (.text s, after)
      | '[' :: rest =>
          match skipSpace rest with
          | ']' :: after => some (.list [], after)
          | _ => (readItems? fuel rest).map fun (items, after) => (.list items, after)
      | '\x7b' :: rest =>
          match skipSpace rest with
          | '\x7d' :: after => some (.table [], after)
          | _ => (readFields? fuel rest).map fun (fields, after) =>
              (.table (fields.foldl (fun all (k, v) => Fields.put k v all) []), after)
      | other => readNumber? other

/-- The items of a list up to its closing bracket. -/
def readItems? : Nat → List Char → Option (List Value × List Char)
  | 0, _ => none
  | fuel + 1, cs =>
      (readValue? fuel cs).bind fun (item, rest) =>
        match skipSpace rest with
        | ',' :: more => (readItems? fuel more).map fun (items, after) => (item :: items, after)
        | ']' :: after => some ([item], after)
        | _ => none

/-- The fields of a table up to its closing bracket. -/
def readFields? : Nat → List Char → Option (List (String × Value) × List Char)
  | 0, _ => none
  | fuel + 1, cs =>
      match skipSpace cs with
      | '"' :: rest =>
          (readText? rest).bind fun (key, afterKey) =>
            match skipSpace afterKey with
            | ':' :: more =>
                (readValue? fuel more).bind fun (value, afterValue) =>
                  match skipSpace afterValue with
                  | ',' :: next =>
                      (readFields? fuel next).map fun (fields, after) =>
                        ((key, value) :: fields, after)
                  | '\x7d' :: after => some ([(key, value)], after)
                  | _ => none
            | _ => none
      | _ => none

end

/-- The value of a JSON text. -/
def read? (cs : List Char) : Option Value :=
  match readValue? (cs.length + 1) cs with
  | some (value, rest) => if (skipSpace rest).isEmpty then some value else none
  | none => none

end BucketRegion.Json
