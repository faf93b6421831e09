import BucketRegion.Decimal.Shortest
import BucketRegion.Text.Quoted
import BucketRegion.Value.Basic

/-!
# Values in messages

The text by which a message shows a value, and the standard text of dates and times.
-/

set_option autoImplicit false

namespace BucketRegion

open Decimal (paddedText naturalText integerText)

/-- `YYYY-MM-DD`. -/
def Calendar.Date.iso (d : Calendar.Date) : String :=
  paddedText 4 d.year ++ "-" ++ paddedText 2 d.month ++ "-" ++ paddedText 2 d.day

/-- `HH:MM:SS`, with six digits of a fraction unless it is zero. -/
def Calendar.TimeOfDay.iso (t : Calendar.TimeOfDay) : String :=
  paddedText 2 t.hour ++ ":" ++ paddedText 2 t.minute ++ ":" ++ paddedText 2 t.second ++
    if t.microsecond == 0 then "" else "." ++ paddedText 6 t.microsecond

/-- The distance from universal time, given in minutes, as `+HH:MM` or `-HH:MM`. -/
def offsetText (minutes : Int) : String :=
  (if minutes < 0 then "-" else "+") ++ paddedText 2 (minutes.natAbs / 60) ++ ":" ++
    paddedText 2 (minutes.natAbs % 60)

namespace Value

def momentIso (d : Calendar.Date) (t : Calendar.TimeOfDay) (offset : Option Int) : String :=
  d.iso ++ "T" ++ t.iso ++ match offset with
    | none => ""
    | some minutes => offsetText minutes

/-- Hour and minute, and what follows them that is not zero. -/
def timeParts (t : Calendar.TimeOfDay) : List Nat :=
  if t.microsecond != 0 then [t.hour, t.minute, t.second, t.microsecond]
  else if t.second != 0 then [t.hour, t.minute, t.second]
  else [t.hour, t.minute]

def listed (parts : List Nat) : String :=
  ", ".intercalate (parts.map naturalText)

/-- A distance from universal time as a count of days and seconds, the seconds not negative. -/
def displayOffset (minutes : Int) : String :=
  if minutes == 0 then "datetime.timezone.utc"
  else if minutes < 0 then
    "datetime.timezone(datetime.timedelta(days=-1, seconds=" ++
      integerText (86400 + minutes * 60) ++ "))"
  else "datetime.timezone(datetime.timedelta(seconds=" ++ integerText (minutes * 60) ++ "))"

mutual

/-- A value as a message shows it. -/
def display : Value → String
  | null => "None"
  | bool true => "True"
  | bool false => "False"
  | int n => integerText n
  | float x => Decimal.floatText .plain x
  | text s => Text.quoted s
  | list items => "[" ++ ", ".intercalate (displayItems items) ++ "]"
  | table fields => "\x7b" ++ ", ".intercalate (displayFields fields) ++ "\x7d"
  | date d => "datetime.date(" ++ listed [d.year, d.month, d.day] ++ ")"
  | time t => "datetime.time(" ++ listed (timeParts t) ++ ")"
  | moment d t none =>
      "datetime.datetime(" ++ listed ([d.year, d.month, d.day] ++ timeParts t) ++ ")"
  | moment d t (some minutes) =>
      "datetime.datetime(" ++ listed ([d.year, d.month, d.day] ++ timeParts t) ++ ", tzinfo=" ++
        displayOffset minutes ++ ")"

def displayItems : List Value → List String
  | [] => []
  | item :: items => display item :: displayItems items

def displayFields : List (String × Value) → List String
  | [] => []
  | (key, value) :: fields =>
      (Text.quoted key ++ ": " ++ display value) :: displayFields fields

end

/-- The plain text of a value: a text is itself. -/
def plain : Value → String
  | text s => s
  | value => value.display

end Value

end BucketRegion
