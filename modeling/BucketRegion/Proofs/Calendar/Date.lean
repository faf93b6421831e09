import Mathlib.Order.Monotone.Basic
import BucketRegion.Calendar.Clock

/-!
# Days and their numbers

The numbers of days are those of counting: the first day of the calendar is day one, and every day
is followed by the one with the next number. So a day of the calendar and its number determine each
other, and days of the week follow each other in their order.
-/

set_option autoImplicit false

namespace BucketRegion.Calendar

/-! ## Months and years -/

def daysInYear (year : Nat) : Nat := if isLeap year then 366 else 365

theorem daysBeforeMonth_succ {year month : Nat} (named : 1 ≤ month) :
    daysBeforeMonth year (month + 1) = daysBeforeMonth year month + daysInMonth year month := by
  obtain ⟨month, rfl⟩ := Nat.exists_eq_succ_of_ne_zero (Nat.ne_of_gt named)
  rfl

theorem daysBeforeMonth_mono (year : Nat) : Monotone (daysBeforeMonth year) := by
  refine monotone_nat_of_le_succ fun month => ?_
  rcases Nat.eq_zero_or_pos month with rfl | named
  · exact Nat.le_refl 0
  · rw [daysBeforeMonth_succ named]
    exact Nat.le_add_right _ _

theorem daysBeforeMonth_thirteen (year : Nat) : daysBeforeMonth year 13 = daysInYear year := by
  unfold daysInYear
  cases leap : isLeap year with
  | true => simp [daysBeforeMonth, daysInMonth, leap]
  | false => simp [daysBeforeMonth, daysInMonth, leap]

theorem isLeap_iff (year : Nat) :
    isLeap year = true ↔ year % 4 = 0 ∧ (year % 100 ≠ 0 ∨ year % 400 = 0) := by
  simp [isLeap]

theorem daysInYear_eq (year : Nat) :
    daysInYear year + (if year % 100 = 0 then 1 else 0) =
      365 + (if year % 4 = 0 then 1 else 0) + if year % 400 = 0 then 1 else 0 := by
  simp only [daysInYear, isLeap_iff]
  by_cases fourth : year % 4 = 0
  · by_cases century : year % 100 = 0
    · by_cases cycle : year % 400 = 0 <;> simp [fourth, century, cycle]
    · have cycle : year % 400 ≠ 0 := by omega
      simp [fourth, century, cycle]
  · have century : year % 100 ≠ 0 := by omega
    have cycle : year % 400 ≠ 0 := by omega
    simp [fourth, century, cycle]

/-- Counting whole centuries and cycles is counting year by year. -/
theorem daysBeforeYear_succ {year : Nat} (counted : 1 ≤ year) :
    daysBeforeYear (year + 1) = daysBeforeYear year + daysInYear year := by
  obtain ⟨past, rfl⟩ := Nat.exists_eq_succ_of_ne_zero (Nat.ne_of_gt counted)
  have length := daysInYear_eq (past + 1)
  have quarters : (past + 1) / 4 = past / 4 + if (past + 1) % 4 = 0 then 1 else 0 := by
    split <;> omega
  have hundreds : (past + 1) / 100 = past / 100 + if (past + 1) % 100 = 0 then 1 else 0 := by
    split <;> omega
  have wholes : (past + 1) / 400 = past / 400 + if (past + 1) % 400 = 0 then 1 else 0 := by
    split <;> omega
  have fewer : past / 100 ≤ past / 4 := Nat.div_le_div_left (by decide) (by decide)
  have still : (past + 1) / 100 ≤ (past + 1) / 4 := Nat.div_le_div_left (by decide) (by decide)
  simp only [daysBeforeYear, Nat.succ_eq_add_one, Nat.add_sub_cancel]
  -- Only by how much the quotients go up matters.
  generalize (past + 1) / 4 = fourth, (past + 1) / 100 = century, (past + 1) / 400 = cycle at *
  omega

theorem daysBeforeYear_mono : Monotone daysBeforeYear := by
  refine monotone_nat_of_le_succ fun year => ?_
  rcases Nat.eq_zero_or_pos year with rfl | counted
  · decide
  · rw [daysBeforeYear_succ counted]
    exact Nat.le_add_right _ _

namespace Date

variable {d d' : Date}

theorem exists?_iff : d.exists? = true ↔
    1 ≤ d.year ∧ d.year ≤ 9999 ∧ 1 ≤ d.month ∧ d.month ≤ 12 ∧ 1 ≤ d.day ∧
      d.day ≤ daysInMonth d.year d.month := by
  simp [exists?, and_assoc]

theorem daysBeforeMonth_add_day_le (there : d.exists? = true) :
    daysBeforeMonth d.year d.month + d.day ≤ daysInYear d.year := by
  obtain ⟨_, _, named, last, _, within⟩ := exists?_iff.mp there
  have later := daysBeforeMonth_mono d.year (Nat.succ_le_succ last)
  rw [daysBeforeMonth_thirteen, daysBeforeMonth_succ named] at later
  omega

/-- A day belongs to its year. -/
theorem ordinal_bounds (there : d.exists? = true) :
    daysBeforeYear d.year < d.ordinal ∧ d.ordinal ≤ daysBeforeYear (d.year + 1) := by
  have within := daysBeforeMonth_add_day_le there
  obtain ⟨counted, _, _, _, first, _⟩ := exists?_iff.mp there
  rw [daysBeforeYear_succ counted, ordinal]
  omega

theorem ordinal_le_last (there : d.exists? = true) : d.ordinal ≤ lastOrdinal := by
  have last := (exists?_iff.mp there).2.1
  have later := daysBeforeYear_mono (Nat.succ_le_succ last)
  exact (ordinal_bounds there).2.trans later

/-! ## Counting days -/

/-- The day after a day. -/
def next (d : Date) : Date :=
  if d.day < daysInMonth d.year d.month then ⟨d.year, d.month, d.day + 1⟩
  else if d.month < 12 then ⟨d.year, d.month + 1, 1⟩
  else ⟨d.year + 1, 1, 1⟩

theorem ordinal_next (there : d.exists? = true) : d.next.ordinal = d.ordinal + 1 := by
  obtain ⟨counted, _, named, last, _, within⟩ := exists?_iff.mp there
  unfold next
  split
  · rfl
  · next ending =>
      have full : d.day = daysInMonth d.year d.month := by omega
      split
      · simp only [ordinal, daysBeforeMonth_succ named]
        omega
      · next december =>
          have twelfth : d.month = 12 := by omega
          have whole := daysBeforeMonth_thirteen d.year
          rw [daysBeforeMonth_succ (by decide)] at whole
          rw [twelfth] at full
          have start : daysBeforeMonth (d.year + 1) 1 = 0 := rfl
          simp only [ordinal, daysBeforeYear_succ counted, start, twelfth]
          omega

/-- Day one is a Monday. -/
theorem ordinal_first : ordinal ⟨1, 1, 1⟩ = 1 ∧ weekday ⟨1, 1, 1⟩ = 0 := by decide

theorem weekday_next (there : d.exists? = true) : d.next.weekday = (d.weekday + 1) % 7 := by
  rw [weekday, weekday, ordinal_next there]
  omega

example : weekdayName (weekday ⟨2000, 2, 29⟩) = "Tue" := by decide

theorem weekday_lt (d : Date) : d.weekday < 7 := Nat.mod_lt _ (by decide)

/-! ## Numbers and their days -/

theorem year_le_of_ordinal (there : d.exists? = true) (there' : d'.exists? = true)
    (same : d.ordinal = d'.ordinal) : d.year ≤ d'.year := by
  by_contra later
  have apart := daysBeforeYear_mono (Nat.succ_le_of_lt (Nat.lt_of_not_le later))
  have lower := (ordinal_bounds there).1
  have upper := (ordinal_bounds there').2
  rw [Nat.succ_eq_add_one] at apart
  omega

theorem month_le_of_day {year month month' day day' : Nat} (named : 1 ≤ month') (first : 1 ≤ day)
    (within : day' ≤ daysInMonth year month')
    (same : daysBeforeMonth year month + day = daysBeforeMonth year month' + day') :
    month ≤ month' := by
  by_contra later
  have apart := daysBeforeMonth_mono year (Nat.succ_le_of_lt (Nat.lt_of_not_le later))
  rw [Nat.succ_eq_add_one, daysBeforeMonth_succ named] at apart
  omega

/-- No two days of the calendar have one number. -/
theorem eq_of_ordinal_eq (there : d.exists? = true) (there' : d'.exists? = true)
    (same : d.ordinal = d'.ordinal) : d = d' := by
  have year := Nat.le_antisymm (year_le_of_ordinal there there' same)
    (year_le_of_ordinal there' there same.symm)
  obtain ⟨_, _, named, _, first, within⟩ := exists?_iff.mp there
  obtain ⟨_, _, named', _, first', within'⟩ := exists?_iff.mp there'
  obtain ⟨y, m, day⟩ := d
  obtain ⟨y', m', day'⟩ := d'
  dsimp only at year named named' first first' within within'
  subst year
  have days : daysBeforeMonth y m + day = daysBeforeMonth y m' + day' := by
    simp only [ordinal] at same
    omega
  have month := Nat.le_antisymm (month_le_of_day named' first within' days)
    (month_le_of_day named first' within days.symm)
  subst month
  rw [Nat.add_left_cancel days]

end Date

/-- Going through the months of a year ends at the day that was counted. -/
theorem monthAndDay_counts (year : Nat) {fuel month n : Nat} (named : 1 ≤ month)
    (enough : month + fuel = 12) (within : daysBeforeMonth year month + n < daysInYear year) :
    1 ≤ (monthAndDay year fuel month n).1 ∧ (monthAndDay year fuel month n).1 ≤ 12 ∧
      1 ≤ (monthAndDay year fuel month n).2 ∧
      (monthAndDay year fuel month n).2 ≤ daysInMonth year (monthAndDay year fuel month n).1 ∧
      daysBeforeMonth year (monthAndDay year fuel month n).1 + (monthAndDay year fuel month n).2 =
        daysBeforeMonth year month + n + 1 := by
  induction fuel generalizing month n with
  | zero =>
      have twelfth : month = 12 := enough
      subst twelfth
      have whole := daysBeforeMonth_thirteen year
      rw [daysBeforeMonth_succ (by decide)] at whole
      simp only [monthAndDay]
      omega
  | succ fuel ih =>
      unfold monthAndDay
      split
      · dsimp only
        omega
      · next longer =>
          have later := @daysBeforeMonth_succ year month named
          have rest := @ih (month + 1) (n - daysInMonth year month) (by omega) (by omega)
            (by omega)
          omega

namespace Date

section Cycles

variable {cycles centuries fours years : Nat}

/-- The days before a year that is so many cycles of 400, 100, 4 and 1 years after the first. -/
theorem daysBeforeYear_of_cycles (centuries_le : centuries ≤ 3) (fours_le : fours ≤ 24)
    (years_le : years ≤ 3) :
    daysBeforeYear (400 * cycles + 100 * centuries + 4 * fours + years + 1) =
      146097 * cycles + 36524 * centuries + 1461 * fours + 365 * years := by
  have quarters : (400 * cycles + 100 * centuries + 4 * fours + years) / 4 =
      100 * cycles + 25 * centuries + fours := by omega
  have hundreds : (400 * cycles + 100 * centuries + 4 * fours + years) / 100 =
      4 * cycles + centuries := by omega
  have wholes : (400 * cycles + 100 * centuries + 4 * fours + years) / 400 = cycles := by omega
  simp only [daysBeforeYear, Nat.add_sub_cancel, quarters, hundreds, wholes]
  omega

/-- The last year of four is long, unless it is the last of a century that is not the last of a
cycle. -/
theorem daysInYear_of_cycles (centuries_le : centuries ≤ 3) (fours_le : fours ≤ 24)
    (years_le : years ≤ 3) :
    daysInYear (400 * cycles + 100 * centuries + 4 * fours + years + 1) =
      if years = 3 ∧ (fours = 24 → centuries = 3) then 366 else 365 := by
  unfold daysInYear
  refine if_congr ((isLeap_iff _).trans ?_) rfl rfl
  omega

end Cycles

/-- Taking off cycles of years leaves a year and the days in it. -/
theorem exists_year_of_ordinal {n : Nat} (first : 1 ≤ n) (last : n ≤ lastOrdinal) :
    ∃ year days, 1 ≤ year ∧ year ≤ 9999 ∧ days < daysInYear year ∧
      n = daysBeforeYear year + days + 1 ∧
      ofOrdinal n = ⟨year, (monthAndDay year 11 1 days).1, (monthAndDay year 11 1 days).2⟩ := by
  have bound : n ≤ 3652059 := last
  refine ⟨_, _, Nat.le_add_left 1 _, ?_, ?_, ?_, rfl⟩
  · omega
  · rw [daysInYear_of_cycles (by omega) (by omega) (by omega)]
    split
    · omega
    · omega
  · rw [daysBeforeYear_of_cycles (by omega) (by omega) (by omega)]
    omega

/-- The day with a number is a day of the calendar and has that number. -/
theorem ofOrdinal_spec {n : Nat} (first : 1 ≤ n) (last : n ≤ lastOrdinal) :
    (ofOrdinal n).exists? = true ∧ (ofOrdinal n).ordinal = n := by
  obtain ⟨year, days, counted, bounded, within, whole, shown⟩ := exists_year_of_ordinal first last
  have start : daysBeforeMonth year 1 = 0 := rfl
  obtain ⟨named, twelve, one, inside, position⟩ :=
    @monthAndDay_counts year 11 1 days (Nat.le_refl 1) rfl (by omega)
  rw [shown]
  refine ⟨exists?_iff.mpr ⟨counted, bounded, named, twelve, one, inside⟩, ?_⟩
  simp only [ordinal]
  omega

theorem ofOrdinal_ordinal {d : Date} (there : d.exists? = true) : ofOrdinal d.ordinal = d := by
  have counted : 1 ≤ d.ordinal := Nat.one_le_of_lt (ordinal_bounds there).1
  obtain ⟨there', same⟩ := ofOrdinal_spec counted (ordinal_le_last there)
  exact eq_of_ordinal_eq there' there same

end Date

end BucketRegion.Calendar
