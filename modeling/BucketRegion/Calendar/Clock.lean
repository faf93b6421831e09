import BucketRegion.Calendar.Date
import BucketRegion.Decimal.Natural

/-!
# Clock readings

A reading is a local date and time with its distance from universal time. Its instant in
universal time has three written forms: compact, for signatures and run names; with
separators, for reports; and with names of day and month, for date headers.
-/

set_option autoImplicit false

namespace BucketRegion.Calendar

/-- A time of day. -/
structure TimeOfDay where
  hour : Nat
  minute : Nat
  second : Nat
  microsecond : Nat
  deriving Repr, DecidableEq

/-- A local date and time, `offset` seconds ahead of universal time. -/
structure Reading where
  date : Date
  time : TimeOfDay
  offset : Int
  deriving Repr, DecidableEq

/-- A second of universal time. -/
structure Instant where
  date : Date
  hour : Nat
  minute : Nat
  second : Nat
  deriving Repr, DecidableEq

/-- The last day of the calendar. -/
def lastOrdinal : Nat := 3652059

/-- The seconds of a reading in universal time, counted from the start of day zero. -/
def Reading.seconds (r : Reading) : Int :=
  Int.ofNat (r.date.ordinal * 86400 + r.time.hour * 3600 + r.time.minute * 60 + r.time.second) -
    r.offset

/-- The instant of a reading, rounded down to the second; none outside the calendar. -/
def Reading.instant? (r : Reading) : Option Instant :=
  if r.seconds < 86400 then none
  else
    let total := r.seconds.toNat
    let day := total / 86400
    if lastOrdinal < day then none
    else
      let rest := total % 86400
      some ⟨Date.ofOrdinal day, rest / 3600, rest / 60 % 60, rest % 60⟩

open Decimal (digits digitsPadded)

/-- `YYYYMMDDTHHMMSS`; a year before 1000 is not padded. -/
def Instant.compactChars (t : Instant) : List Char :=
  digits t.date.year ++ digitsPadded 2 t.date.month ++ digitsPadded 2 t.date.day ++
    'T' :: digitsPadded 2 t.hour ++ digitsPadded 2 t.minute ++ digitsPadded 2 t.second

/-- The name of a run that starts at the instant. -/
def Instant.runName (t : Instant) : String :=
  String.ofList t.compactChars

/-- The time stamp of a signature. -/
def Instant.stamp (t : Instant) : String :=
  String.ofList (t.compactChars ++ ['Z'])

/-- `YYYY-MM-DDTHH:MM:SSZ`. -/
def Instant.extended (t : Instant) : String :=
  String.ofList <|
    digits t.date.year ++ '-' :: digitsPadded 2 t.date.month ++ '-' :: digitsPadded 2 t.date.day ++
      'T' :: digitsPadded 2 t.hour ++ ':' :: digitsPadded 2 t.minute ++
      ':' :: digitsPadded 2 t.second ++ ['Z']

def weekdayName (weekday : Nat) : String :=
  #["Mon", "Tue", "Wed", "Thu", "Fri", "Sat", "Sun"].getD weekday ""

def monthName (month : Nat) : String :=
  #["Jan", "Feb", "Mar", "Apr", "May", "Jun", "Jul", "Aug", "Sep", "Oct", "Nov", "Dec"].getD
    (month - 1) ""

/-- The value of a date header, `Mon, 19 Oct 2026 12:00:00 GMT`. -/
def Instant.headerDate (t : Instant) : String :=
  weekdayName t.date.weekday ++ ", " ++
    String.ofList (digitsPadded 2 t.date.day) ++ " " ++ monthName t.date.month ++ " " ++
    String.ofList (digitsPadded 4 t.date.year) ++ " " ++
    String.ofList (digitsPadded 2 t.hour ++ ':' :: digitsPadded 2 t.minute ++
      ':' :: digitsPadded 2 t.second) ++ " GMT"

end BucketRegion.Calendar
