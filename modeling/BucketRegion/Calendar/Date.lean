/-!
# Civil dates

The Gregorian calendar extended over the years 1 to 9999, as day numbers: day 1 is the first of
January of year 1.
-/

set_option autoImplicit false

namespace BucketRegion.Calendar

/-- A day of the calendar; nothing here says that it exists. -/
structure Date where
  year : Nat
  month : Nat
  day : Nat
  deriving Repr, DecidableEq

def isLeap (year : Nat) : Bool :=
  year % 4 == 0 && (year % 100 != 0 || year % 400 == 0)

def daysInMonth (year month : Nat) : Nat :=
  if month == 2 then if isLeap year then 29 else 28
  else if month == 4 || month == 6 || month == 9 || month == 11 then 30
  else 31

/-- The days of a year before the first of a month. -/
def daysBeforeMonth (year : Nat) : Nat → Nat
  | 0 => 0
  | 1 => 0
  | month + 1 => daysBeforeMonth year month + daysInMonth year month

/-- The days before the first of January of a year. -/
def daysBeforeYear (year : Nat) : Nat :=
  let y := year - 1
  365 * y + y / 4 - y / 100 + y / 400

namespace Date

/-- Whether the calendar has the day. -/
def exists? (d : Date) : Bool :=
  1 ≤ d.year && d.year ≤ 9999 && 1 ≤ d.month && d.month ≤ 12 && 1 ≤ d.day &&
    d.day ≤ daysInMonth d.year d.month

/-- The number of a day. -/
def ordinal (d : Date) : Nat :=
  daysBeforeYear d.year + daysBeforeMonth d.year d.month + d.day

end Date

/-- The month and day of the `n`-th day of a year, counted from zero; `fuel` months are tried
from `month` on. -/
def monthAndDay (year : Nat) : Nat → Nat → Nat → Nat × Nat
  | 0, month, n => (month, n + 1)
  | fuel + 1, month, n =>
      if n < daysInMonth year month then (month, n + 1)
      else monthAndDay year fuel (month + 1) (n - daysInMonth year month)

/-- The day with a number: cycles of 400, 100, 4 and 1 years are taken off in turn, and the last
day of a cycle belongs to its last year. -/
def Date.ofOrdinal (n : Nat) : Date :=
  let n := n - 1
  let (n400, n) := (n / 146097, n % 146097)
  let n100 := min (n / 36524) 3
  let n := n - n100 * 36524
  let (n4, n) := (n / 1461, n % 1461)
  let n1 := min (n / 365) 3
  let n := n - n1 * 365
  let year := 400 * n400 + 100 * n100 + 4 * n4 + n1 + 1
  let (month, day) := monthAndDay year 11 1 n
  ⟨year, month, day⟩

/-- The day of the week, Monday being zero. -/
def Date.weekday (d : Date) : Nat := (d.ordinal + 6) % 7

end BucketRegion.Calendar
