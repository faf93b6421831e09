import BucketRegion.Decimal.Numeral
import BucketRegion.Text.Ranges
import BucketRegion.Toml.Fault
import BucketRegion.Value.Basic

/-!
# Scalars of TOML

Texts in their four spellings, numbers, dates and times.
-/

set_option autoImplicit false

namespace BucketRegion.Toml

def isSpace (c : Char) : Bool := c == ' ' || c == '\t'

def isSpaceOrLine (c : Char) : Bool := isSpace c || c == '\n'

/-- Control characters, which no text on one line and no comment can hold. -/
def isControl (c : Char) : Bool := (c.toNat < 0x20 && c != '\t') || c.toNat == 0x7F

/-- Control characters that no text on several lines can hold. -/
def isControlBesideLine (c : Char) : Bool := isControl c && c != '\n'

/-- The characters up to a mark, and the mark with what follows. A forbidden character before it
is refused, and a missing mark if it has to be there. -/
def readUntil (mark : List Char) (forbidden : Char → Bool) (needed : Bool) (cs : List Char) :
    Reading (List Char) :=
  let (before, rest) :=
    match Text.cutAt? mark cs with
    | some (before, after) => (before, mark ++ after)
    | none => (cs, [])
  if needed && rest.isEmpty then refuse (.expected (String.ofList mark)) []
  else
    match before.find? forbidden with
    | some c => refuse (.strayChar c) (cs.dropWhile fun c => !forbidden c)
    | none => .ok (before, rest)

/-- A character by its number in hexadecimal digits. -/
def readCode (width : Nat) (cs : List Char) : Reading (List Char) :=
  let digits := cs.take width
  if digits.length != width || !digits.all fun c => (Text.hexValue? c).isSome then
    refuse .hexDigits cs
  else
    let n := Text.hexNumber digits
    let rest := cs.drop width
    if Nat.isValidChar n then .ok ([Char.ofNat n], rest) else refuse .notScalar rest

/-- What an escape stands for, given what follows the backslash. In text on several lines a
backslash also takes away the end of its line and all space after it. -/
def readEscape (multiline : Bool) (cs : List Char) : Reading (List Char) :=
  match cs with
  | 'u' :: rest => readCode 4 rest
  | 'U' :: rest => readCode 8 rest
  | 'b' :: rest => .ok (['\x08'], rest)
  | 't' :: rest => .ok (['\t'], rest)
  | 'n' :: rest => .ok (['\n'], rest)
  | 'f' :: rest => .ok (['\x0c'], rest)
  | 'r' :: rest => .ok (['\r'], rest)
  | '"' :: rest => .ok (['"'], rest)
  | '\\' :: rest => .ok (['\\'], rest)
  | c :: rest =>
      if multiline && isSpaceOrLine c then
        match cs.dropWhile isSpace with
        | [] => .ok ([], [])
        | '\n' :: more => .ok ([], more.dropWhile isSpaceOrLine)
        | other => refuse .loneBackslash other
      else refuse .loneBackslash rest
  | [] => refuse .loneBackslash []

/-- Text up to its closing quotation marks, one or three; `fuel` bounds its characters. -/
def readBasic (multiline : Bool) : Nat → List Char → Reading (List Char)
  | 0, cs => refuse .openText cs
  | fuel + 1, cs =>
      match cs with
      | [] => refuse .openText []
      | '"' :: rest =>
          if !multiline then .ok ([], rest)
          else
            match rest with
            | '"' :: '"' :: more => .ok ([], more)
            | _ => (readBasic multiline fuel rest).map fun (text, after) => ('"' :: text, after)
      | '\\' :: rest =>
          match readEscape multiline rest with
          | .error fault => .error fault
          | .ok (chars, more) =>
              (readBasic multiline fuel more).map fun (text, after) => (chars ++ text, after)
      | c :: rest =>
          if if multiline then isControlBesideLine c else isControl c then
            refuse (.illegalChar c) cs
          else (readBasic multiline fuel rest).map fun (text, after) => (c :: text, after)

/-- How many characters stand before the end of the line. -/
def lineSize (cs : List Char) : Nat := (cs.takeWhile (· != '\n')).length

/-- Text on one line, after its opening mark. -/
def readBasicLine (cs : List Char) : Reading String :=
  (readBasic false (lineSize cs + 1) cs).map fun (text, rest) => (String.ofList text, rest)

/-- Text without escapes on one line, after its opening mark. -/
def readLiteralLine (cs : List Char) : Reading String :=
  (readUntil ['\''] isControl true cs).map fun (text, rest) =>
    (String.ofList text, rest.drop 1)

/-- Up to two marks in front of the closing ones belong to the text. -/
def closeLong (mark : Char) (text rest : List Char) : String × List Char :=
  let extra := (rest.take 2).takeWhile (· == mark)
  (String.ofList (text ++ extra), rest.drop extra.length)

/-- Text on several lines, after its opening marks; a line end right after them is left out. -/
def readLong (literal : Bool) (cs : List Char) : Reading String :=
  let cs := if cs.head? == some '\n' then cs.drop 1 else cs
  if literal then
    (readUntil ['\'', '\'', '\''] isControlBesideLine true cs).map fun (text, rest) =>
      closeLong '\'' text (rest.drop 3)
  else
    (readBasic true (cs.length + 1) cs).map fun (text, rest) => closeLong '"' text rest

/-- Digits with single underscores between them, as long as they go on. -/
def spanGrouped (isDigit : Char → Bool) : List Char → List Char × List Char
  | c :: rest =>
      if isDigit c then
        let (more, after) := spanGrouped isDigit rest
        (c :: more, after)
      else if c == '_' then
        match rest with
        | d :: _ =>
            if isDigit d then
              let (more, after) := spanGrouped isDigit rest
              (c :: more, after)
            else ([], c :: rest)
        | [] => ([], [c])
      else ([], c :: rest)
  | [] => ([], [])

/-- Grouped digits that start with a digit. -/
def digitsFirst? (isDigit : Char → Bool) (cs : List Char) : Option (List Char × List Char) :=
  if cs.head?.any isDigit then some (spanGrouped isDigit cs) else none

def valueInBase (base : Nat) (digits : List Char) : Nat :=
  digits.foldl (fun n c => match Text.hexValue? c with | some d => base * n + d | none => n) 0

/-- The base that a letter after a leading zero stands for, and its digits. -/
def baseOf? : Char → Option (Nat × (Char → Bool))
  | 'x' => some (16, fun c => (Text.hexValue? c).isSome)
  | 'o' => some (8, fun c => '0' ≤ c && c ≤ '7')
  | 'b' => some (2, fun c => c == '0' || c == '1')
  | _ => none

/-- A whole number in a base other than ten. -/
def readBased? : List Char → Option (Value × List Char)
  | '0' :: letter :: rest =>
      (baseOf? letter).bind fun (base, isDigit) =>
        (digitsFirst? isDigit rest).map fun (digits, after) =>
          (.int (Int.ofNat (valueInBase base digits)), after)
  | _ => none

/-- The digits in front of a point: a zero, or digits that do not start with one. -/
def wholePart? : List Char → Option (List Char × List Char)
  | '0' :: rest => some (['0'], rest)
  | cs => digitsFirst? Char.isDigit cs

/-- A point and digits, if they are there. -/
def fractionPart : List Char → List Char × List Char
  | '.' :: rest =>
      match digitsFirst? Char.isDigit rest with
      | some (digits, after) => ('.' :: digits, after)
      | none => ([], '.' :: rest)
  | cs => ([], cs)

/-- An exponent, if it is there. -/
def exponentPart : List Char → List Char × List Char
  | e :: rest =>
      if e == 'e' || e == 'E' then
        let (sign, body) :=
          match rest with
          | '+' :: more => (['+'], more)
          | '-' :: more => (['-'], more)
          | _ => ([], rest)
        match digitsFirst? Char.isDigit body with
        | some (digits, after) => (e :: sign ++ digits, after)
        | none => ([], e :: rest)
      else ([], e :: rest)
  | [] => ([], [])

/-- A number in base ten: whole, or with a fraction or an exponent. -/
def readDecimal? (cs : List Char) : Option (Reading Value) :=
  let (sign, body) :=
    match cs with
    | '+' :: rest => (['+'], rest)
    | '-' :: rest => (['-'], rest)
    | _ => ([], cs)
  (wholePart? body).map fun (whole, afterWhole) =>
    let (fraction, afterFraction) := fractionPart afterWhole
    let (exponent, rest) := exponentPart afterFraction
    let text := String.ofList (sign ++ whole ++ fraction ++ exponent)
    if fraction.isEmpty && exponent.isEmpty then
      match Decimal.readInteger text with
      | .ok n => .ok (.int n, rest)
      | .error (.tooLong count) => .error (.longInteger count)
      | .error (.malformed _) => refuse .value cs
    else
      match Decimal.readFloat? text with
      | some x => .ok (.float x, rest)
      | none => refuse .value cs

/-- A number of two digits within bounds. -/
def twoDigits? (low high : Nat) : List Char → Option (Nat × List Char)
  | a :: b :: rest =>
      if a.isDigit && b.isDigit then
        let n := Decimal.valueOf [a, b]
        if low ≤ n && n ≤ high then some (n, rest) else none
      else none
  | _ => none

/-- What follows a mark, if it is there. -/
def after? (mark : Char) : List Char → Option (List Char)
  | c :: rest => if c == mark then some rest else none
  | [] => none

/-- The millionths that a fraction of a second stands for, and what follows it. -/
def microseconds (cs : List Char) : Nat × List Char :=
  match cs with
  | '.' :: rest =>
      let digits := rest.takeWhile Char.isDigit
      if digits.isEmpty then (0, cs)
      else (Decimal.valueOf ((digits ++ List.replicate 6 '0').take 6), rest.drop digits.length)
  | _ => (0, cs)

/-- A time of day. -/
def readTime? (cs : List Char) : Option (Calendar.TimeOfDay × List Char) := do
  let (hour, rest) ← twoDigits? 0 23 cs
  let rest ← after? ':' rest
  let (minute, rest) ← twoDigits? 0 59 rest
  let rest ← after? ':' rest
  let (second, rest) ← twoDigits? 0 59 rest
  let (micros, rest) := microseconds rest
  return (⟨hour, minute, second, micros⟩, rest)

/-- A date; whether the calendar has it is not asked here. -/
def readDate? (cs : List Char) : Option (Calendar.Date × List Char) := do
  let year := cs.take 4
  guard (year.length == 4 && year.all Char.isDigit)
  let rest ← after? '-' (cs.drop 4)
  let (month, rest) ← twoDigits? 1 12 rest
  let rest ← after? '-' rest
  let (day, rest) ← twoDigits? 1 31 rest
  return (⟨Decimal.valueOf year, month, day⟩, rest)

/-- The distance from universal time in minutes. -/
def readOffset? : List Char → Option (Int × List Char)
  | 'Z' :: rest => some (0, rest)
  | 'z' :: rest => some (0, rest)
  | sign :: rest => do
      guard (sign == '+' || sign == '-')
      let (hours, rest) ← twoDigits? 0 23 rest
      let rest ← after? ':' rest
      let (minutes, rest) ← twoDigits? 0 59 rest
      let total := Int.ofNat (60 * hours + minutes)
      return (if sign == '-' then -total else total, rest)
  | [] => none

/-- The time after a date. -/
def readTimeAfterDate? : List Char → Option (Calendar.TimeOfDay × Option Int × List Char)
  | mark :: rest => do
      guard (mark == 'T' || mark == 't' || mark == ' ')
      let (time, rest) ← readTime? rest
      match readOffset? rest with
      | some (offset, rest) => return (time, some offset, rest)
      | none => return (time, none, rest)
  | [] => none

/-- A date, with a time or without, or a time. -/
def readMoment? (cs : List Char) : Option (Reading Value) :=
  match readDate? cs with
  | some (date, rest) =>
      some <|
        if !date.exists? then refuse .date cs
        else
          match readTimeAfterDate? rest with
          | some (time, offset, rest) => .ok (.moment date time offset, rest)
          | none => .ok (.date date, rest)
  | none => (readTime? cs).map fun (time, rest) => .ok (.time time, rest)

/-- One of the numbers that have a name. -/
def readNamedFloat? (cs : List Char) : Option (Value × List Char) :=
  let (negative, body) := Decimal.splitSign cs
  let bits :=
    if body.take 3 == ['i', 'n', 'f'] then some Decimal.Binary64.infinityBits
    else if body.take 3 == ['n', 'a', 'n'] then some Decimal.Binary64.notANumberBits
    else none
  bits.map fun bits => (.float (Decimal.Binary64.floatOfBits negative bits), body.drop 3)

end BucketRegion.Toml
