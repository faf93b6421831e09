import BucketRegion.Calendar.Clock
import BucketRegion.Decimal.Numeral

/-!
# Expiry dates

The dates by which cookies tell when they end, as seconds since the start of 1970. There is one
fixed form, and a loose one for what servers write besides: the day of the week may be missing,
the month may be a number, the year may have two digits, and the clock and zone may be left out.
-/

set_option autoImplicit false

namespace BucketRegion.Http.ExpiryDate

/-- Why a date cannot even be passed over. -/
inductive Fault where
  /-- A date of the fixed form whose month has no such name. -/
  | noSuchMonth
  /-- A year that is too long to be read. -/
  | longYear
  deriving Repr, DecidableEq

/-- The parts of a date in universal time. -/
structure Stamp where
  year : Nat
  month : Nat
  day : Nat
  hour : Nat
  minute : Nat
  second : Nat
  deriving Repr, DecidableEq

/-- The number of the first of January of 1970. -/
def epochOrdinal : Nat := 719163

/-- The seconds of a stamp; none before 1970, or if a part is out of range. A day that its month
does not have counts on into the next one. -/
def Stamp.seconds? (s : Stamp) : Option Int :=
  if 1970 ≤ s.year && 1 ≤ s.month && s.month ≤ 12 && 1 ≤ s.day && s.day ≤ 31 && s.hour ≤ 24 &&
      s.minute ≤ 59 && s.second ≤ 61 then
    let days := (⟨s.year, s.month, 1⟩ : Calendar.Date).ordinal - epochOrdinal + (s.day - 1)
    some (Int.ofNat (((days * 24 + s.hour) * 60 + s.minute) * 60 + s.second))
  else none

def monthNames : List (List Char) :=
  ["jan", "feb", "mar", "apr", "may", "jun", "jul", "aug", "sep", "oct", "nov", "dec"].map
    String.toList

/-- The number of a month by its short name, in any letter case. -/
def monthOfName? (name : List Char) : Option Nat :=
  (monthNames.idxOf? (name.map Char.toLower)).map (· + 1)

/-- The number of a month by its name or by a numeral. -/
def month? (name : List Char) : Option Nat :=
  match monthOfName? name with
  | some month => some month
  | none =>
      match Decimal.readInteger (String.ofList name) with
      | .ok n => if 1 ≤ n && n ≤ 12 then some n.toNat else none
      | .error _ => none

/-- The name of the month and the other parts of a date of the fixed form,
`Wed, 21 Oct 2015 07:28:00 GMT`; the month of the stamp is not told. -/
def fixedForm? : List Char → Option (List Char × Stamp)
  | [w1, w2, w3, ',', ' ', d1, d2, ' ', m1, m2, m3, ' ', y1, y2, y3, y4, ' ', h1, h2, ':',
      n1, n2, ':', s1, s2, ' ', 'G', 'M', 'T'] =>
      let isShape := ['S', 'M', 'T', 'W', 'F'].contains w1 &&
        ['J', 'F', 'M', 'A', 'S', 'O', 'N', 'D'].contains m1 &&
        [w2, w3, m2, m3].all Char.isLower &&
        [d1, d2, y1, y2, y3, y4, h1, h2, n1, n2, s1, s2].all Char.isDigit
      let value := Decimal.valueOf
      if isShape then
        some ([m1, m2, m3],
          ⟨value [y1, y2, y3, y4], 0, value [d1, d2], value [h1, h2], value [n1, n2],
            value [s1, s2]⟩)
      else none
  | _ => none

/-! ## The loose form -/

def isDateBlank (c : Char) : Bool := (9 ≤ c.toNat && c.toNat ≤ 13) || c == ' '

def dropBlanks (cs : List Char) : List Char := cs.dropWhile isDateBlank

/-- The longest run of at most `limit` characters of a class, and what follows it; none if there
is no such character. -/
def run? (limit : Nat) (p : Char → Bool) (cs : List Char) : Option (List Char × List Char) :=
  let run := (cs.take limit).takeWhile p
  if run.isEmpty then none else some (run, cs.drop run.length)

/-- What follows blanks or one of some marks. -/
def afterGap? (marks : List Char) : List Char → Option (List Char)
  | [] => none
  | c :: rest =>
      if marks.contains c then some rest
      else if isDateBlank c then some (dropBlanks rest)
      else none

/-- A date without the day of the week in front of it. -/
def dropWeekday (cs : List Char) : List Char :=
  let names := ["sun", "mon", "tue", "wed", "thu", "fri", "sat"].map String.toList
  if names.contains ((cs.take 3).map Char.toLower) then
    let rest := (cs.drop 3).dropWhile Char.isAlpha
    dropBlanks (match rest with | ',' :: more => more | _ => rest)
  else cs

/-- The seconds of a clock after their colon, if they are there. -/
def secondsOfClock : List Char → Nat × List Char
  | ':' :: s1 :: s2 :: rest =>
      if s1.isDigit && s2.isDigit then (Decimal.valueOf [s1, s2], rest)
      else (0, ':' :: s1 :: s2 :: rest)
  | cs => (0, cs)

/-- Hour, minute and second of a clock, and what follows it. -/
def clock? (cs : List Char) : Option ((Nat × Nat × Nat) × List Char) := do
  let (hour, cs) ← run? 2 Char.isDigit (← afterGap? [':'] cs)
  match cs with
  | ':' :: m1 :: m2 :: rest =>
      if m1.isDigit && m2.isDigit then
        let (second, rest) := secondsOfClock rest
        some ((Decimal.valueOf hour, Decimal.valueOf [m1, m2], second), rest)
      else none
  | _ => none

/-- The name or distance of a zone, and what follows it; a distance has two to four digits. -/
def zone (cs : List Char) : List Char × List Char :=
  let sign := (cs.take 1).filter fun c => c == '+' || c == '-'
  let digits := ((cs.drop sign.length).take 4).takeWhile Char.isDigit
  if 2 ≤ digits.length then (sign ++ digits, cs.drop (sign.length + digits.length))
  else (cs.takeWhile Char.isAlpha, cs.dropWhile Char.isAlpha)

/-- What follows a word in parentheses, if there is one. -/
def dropNote (cs : List Char) : List Char :=
  match cs with
  | '(' :: rest =>
      let isWordChar (c : Char) : Bool := c.isAlphanum || c == '_'
      match rest.takeWhile isWordChar, rest.dropWhile isWordChar with
      | _ :: _, ')' :: more => more
      | _, _ => cs
  | _ => cs

/-- The seconds by which a zone is ahead of universal time. Of named zones only universal time is
known, and no zone stands for it too. -/
def zoneOffset? : List Char → Option Int
  | '-' :: digits => (zoneOffset? digits).map (- ·)
  | '+' :: digits => zoneOffset? digits
  | [] => some 0
  | [h1, h2] =>
      if h1.isDigit then some (Int.ofNat (3600 * Decimal.valueOf [h1, h2]))
      else if [h1, h2].map Char.toUpper == ['U', 'T'] then some 0
      else none
  | [h, m1, m2] =>
      if h.isDigit then
        some (Int.ofNat (3600 * Decimal.valueOf [h] + 60 * Decimal.valueOf [m1, m2]))
      else if [h, m1, m2].map Char.toUpper == ['G', 'M', 'T'] then some 0
      else if [h, m1, m2].map Char.toUpper == ['U', 'T', 'C'] then some 0
      else none
  | [h1, h2, m1, m2] =>
      if h1.isDigit then
        some (Int.ofNat (3600 * Decimal.valueOf [h1, h2] + 60 * Decimal.valueOf [m1, m2]))
      else none
  | [c] => if c.toUpper == 'Z' then some 0 else none
  | _ => none

/-- The parts of a date of the loose form, as they are written. -/
structure Loose where
  day : List Char
  month : List Char
  year : List Char
  clock : Nat × Nat × Nat
  zone : List Char

def looseForm? (cs : List Char) : Option Loose := do
  let (day, cs) ← run? 2 Char.isDigit cs
  let cs ← afterGap? ['-', '/'] cs
  let (month, cs) ← run? cs.length (fun c => c.isAlphanum || c == '_') cs
  let cs ← afterGap? ['-', '/'] cs
  let (year, cs) ← run? cs.length Char.isDigit cs
  let (clock, cs) := (clock? cs).getD ((0, 0, 0), cs)
  let (zone, cs) := zone (dropBlanks cs)
  if (dropBlanks (dropNote (dropBlanks cs))).isEmpty then some ⟨day, month, year, clock, zone⟩
  else none

/-- A year that is written without its century is the one nearest to the present year. -/
def fullYear (present year : Nat) : Nat :=
  if 1000 ≤ year then year
  else
    let century := present - present % 100
    if present % 100 + 50 < year then year + century - 100
    else if year + 50 < present % 100 then year + century + 100
    else year + century

/-- The seconds of a date of the loose form. -/
def Loose.seconds? (present : Nat) (date : Loose) : Except Fault (Option Int) :=
  if Decimal.digitLimit < date.year.length then .error .longYear
  else
    let year := Decimal.valueOf date.year
    if 9999 < year then .ok none
    else
      match month? date.month with
      | none => .ok none
      | some month =>
          let (hour, minute, second) := date.clock
          let stamp : Stamp :=
            ⟨fullYear present year, month, Decimal.valueOf date.day, hour, minute, second⟩
          .ok (do return (← stamp.seconds?) - (← zoneOffset? date.zone))

/-- Reads a date in the present year; none if it is no date. -/
def read (present : Nat) (text : String) : Except Fault (Option Int) :=
  match fixedForm? text.toList with
  | some (name, stamp) =>
      match monthOfName? name with
      | some month => .ok { stamp with month := month }.seconds?
      | none => .error .noSuchMonth
  | none =>
      match looseForm? (dropWeekday (text.toList.dropWhile Text.isBlank)) with
      | some date => date.seconds? present
      | none => .ok none

end BucketRegion.Http.ExpiryDate
