import BucketRegion.Proofs.Calendar.Date
import BucketRegion.Proofs.Decimal
import BucketRegion.Proofs.Text.Split

/-!
# Instants and their written forms

A reading of the clock denotes a second of universal time, the same one whatever its distance from
universal time is. Each written form of an instant is read back as that instant, whose day of the
week the header form names.
-/

set_option autoImplicit false

namespace BucketRegion.Calendar

/-! ## Instants -/

namespace Instant

/-- Whether the calendar has the instant. -/
def exists? (t : Instant) : Bool :=
  t.date.exists? && t.hour < 24 && t.minute < 60 && t.second < 60

/-- The seconds from the start of day zero. -/
def seconds (t : Instant) : Nat :=
  t.date.ordinal * 86400 + t.hour * 3600 + t.minute * 60 + t.second

variable {t t' : Instant}

theorem exists?_iff : t.exists? = true ↔
    t.date.exists? = true ∧ t.hour < 24 ∧ t.minute < 60 ∧ t.second < 60 := by
  simp [exists?, and_assoc]

end Instant

namespace Reading

variable {r : Reading} {t : Instant}

/-- The time of a reading in universal time, in microseconds from the start of day zero. -/
def moment (r : Reading) : Int := r.seconds * 1000000 + r.time.microsecond

/-- An instant of the calendar is the time of a reading in universal time, rounded down to the
second. -/
structure Denotes (r : Reading) (t : Instant) : Prop where
  there : t.exists? = true
  rounded : (t.seconds : Int) = r.moment / 1000000

theorem moment_div (fraction : r.time.microsecond < 1000000) : r.moment / 1000000 = r.seconds := by
  unfold moment
  omega

/-- A reading has an instant just if it denotes one of the calendar, and it has that one. -/
theorem instant?_eq_some_iff (fraction : r.time.microsecond < 1000000) :
    r.instant? = some t ↔ r.Denotes t := by
  have shown : ∀ day, 1 ≤ day → day ≤ lastOrdinal → ∀ rest < 86400,
      r.seconds = ((day * 86400 + rest : Nat) : Int) →
        r.Denotes ⟨Date.ofOrdinal day, rest / 3600, rest / 60 % 60, rest % 60⟩ := by
    intro day first last rest within whole
    obtain ⟨there, number⟩ := Date.ofOrdinal_spec first last
    refine ⟨Instant.exists?_iff.mpr ⟨there, ?_, ?_, ?_⟩, ?_⟩
    · dsimp only
      omega
    · exact Nat.mod_lt _ (by decide)
    · exact Nat.mod_lt _ (by decide)
    · rw [moment_div fraction, whole]
      simp only [Instant.seconds, number]
      omega
  unfold instant?
  constructor
  · intro found
    split at found
    · cases found
    · dsimp only at found
      split at found
      · cases found
      · cases found
        exact shown _ (by omega) (by omega) _ (Nat.mod_lt _ (by decide)) (by omega)
  · intro denotes
    obtain ⟨there, rounded⟩ := denotes
    obtain ⟨day, hour, minute, second⟩ := Instant.exists?_iff.mp there
    have first := (Date.ordinal_bounds day).1
    have last := Date.ordinal_le_last day
    rw [moment_div fraction, Instant.seconds] at rounded
    have days : r.seconds.toNat / 86400 = t.date.ordinal := by omega
    rw [if_neg (by omega)]
    dsimp only
    rw [days, if_neg (by omega), Date.ofOrdinal_ordinal day]
    obtain ⟨d, h, m, s⟩ := t
    dsimp only at rounded hour minute second days
    have hours : r.seconds.toNat % 86400 / 3600 = h := by omega
    have minutes : r.seconds.toNat % 86400 / 60 % 60 = m := by omega
    have seconds : r.seconds.toNat % 86400 % 60 = s := by omega
    rw [hours, minutes, seconds]

end Reading

/-! ## Names -/

/-- Reads one of so many names, as its number. -/
def readName? (name : Nat → String) (count : Nat) (cs : List Char) : Option (Nat × List Char) :=
  (List.range count).findSome? fun i => (Text.dropLead? (name i).toList cs).map (i, ·)

/-- A name is read back if all names are different and of one length. -/
theorem readName?_append {name : Nat → String} {count i : Nat} (among : i < count)
    (even : ∀ j < count, (name j).toList.length = (name i).toList.length)
    (different : ∀ j < count, (name j).toList = (name i).toList → j = i) (rest : List Char) :
    readName? name count ((name i).toList ++ rest) = some (i, rest) := by
  have only : ∀ j < count, ∀ result,
      (Text.dropLead? (name j).toList ((name i).toList ++ rest)).map (j, ·) = some result →
        result = (i, rest) := by
    intro j below result found
    obtain ⟨left, dropped, rfl⟩ := Option.map_eq_some_iff.mp found
    obtain ⟨same, tail⟩ := List.append_inj (Text.eq_of_dropLead? dropped) (even j below).symm
    rw [different j below same.symm, tail]
  have found : (readName? name count ((name i).toList ++ rest)).isSome = true := by
    refine List.findSome?_isSome_iff.mpr ⟨i, List.mem_range.mpr among, ?_⟩
    rw [Text.dropLead?_append]
    rfl
  obtain ⟨result, read⟩ := Option.isSome_iff_exists.mp found
  obtain ⟨j, member, shown⟩ := List.exists_of_findSome?_eq_some read
  rw [read, only j (List.mem_range.mp member) result shown]

/-! ## Written forms -/

namespace Instant

/-- Reads `YYYYMMDDTHHMMSSZ`. -/
def readStamp? (s : String) : Option Instant := do
  let (year, rest) ← Decimal.readPadded? 4 s.toList
  let (month, rest) ← Decimal.readPadded? 2 rest
  let (day, rest) ← Decimal.readPadded? 2 rest
  let rest ← Text.dropLead? ['T'] rest
  let (hour, rest) ← Decimal.readPadded? 2 rest
  let (minute, rest) ← Decimal.readPadded? 2 rest
  let (second, rest) ← Decimal.readPadded? 2 rest
  let t : Instant := ⟨⟨year, month, day⟩, hour, minute, second⟩
  if rest == ['Z'] && t.exists? then some t else none

/-- Reads `YYYY-MM-DDTHH:MM:SSZ`. -/
def readExtended? (s : String) : Option Instant := do
  let (year, rest) ← Decimal.readPadded? 4 s.toList
  let rest ← Text.dropLead? ['-'] rest
  let (month, rest) ← Decimal.readPadded? 2 rest
  let rest ← Text.dropLead? ['-'] rest
  let (day, rest) ← Decimal.readPadded? 2 rest
  let rest ← Text.dropLead? ['T'] rest
  let (hour, rest) ← Decimal.readPadded? 2 rest
  let rest ← Text.dropLead? [':'] rest
  let (minute, rest) ← Decimal.readPadded? 2 rest
  let rest ← Text.dropLead? [':'] rest
  let (second, rest) ← Decimal.readPadded? 2 rest
  let t : Instant := ⟨⟨year, month, day⟩, hour, minute, second⟩
  if rest == ['Z'] && t.exists? then some t else none

/-- Reads `Mon, 19 Oct 2026 12:00:00 GMT`: the number of the day of the week, and the instant. -/
def readHeaderDate? (s : String) : Option (Nat × Instant) := do
  let (weekday, rest) ← readName? weekdayName 7 s.toList
  let rest ← Text.dropLead? [',', ' '] rest
  let (day, rest) ← Decimal.readPadded? 2 rest
  let rest ← Text.dropLead? [' '] rest
  let (month, rest) ← readName? (fun i => monthName (i + 1)) 12 rest
  let rest ← Text.dropLead? [' '] rest
  let (year, rest) ← Decimal.readPadded? 4 rest
  let rest ← Text.dropLead? [' '] rest
  let (hour, rest) ← Decimal.readPadded? 2 rest
  let rest ← Text.dropLead? [':'] rest
  let (minute, rest) ← Decimal.readPadded? 2 rest
  let rest ← Text.dropLead? [':'] rest
  let (second, rest) ← Decimal.readPadded? 2 rest
  let t : Instant := ⟨⟨year, month + 1, day⟩, hour, minute, second⟩
  if rest == " GMT".toList && t.exists? then some (weekday, t) else none

variable {t : Instant}

/-- The numbers of an instant fill the places that they are written in. -/
theorem fits_of_exists (there : t.exists? = true) :
    t.date.year < Decimal.tenTo 4 ∧ t.date.month < Decimal.tenTo 2 ∧
      t.date.day < Decimal.tenTo 2 ∧ t.hour < Decimal.tenTo 2 ∧ t.minute < Decimal.tenTo 2 ∧
      t.second < Decimal.tenTo 2 := by
  obtain ⟨day, hour, minute, second⟩ := exists?_iff.mp there
  obtain ⟨_, year, _, month, _, within⟩ := Date.exists?_iff.mp day
  have longest : daysInMonth t.date.year t.date.month ≤ 31 := by
    unfold daysInMonth
    split
    · split <;> decide
    · split <;> decide
  have four : Decimal.tenTo 4 = 10000 := rfl
  have two : Decimal.tenTo 2 = 100 := rfl
  omega

theorem digits_year (there : t.exists? = true) (padded : 1000 ≤ t.date.year) :
    Decimal.digits t.date.year = Decimal.digitsPadded 4 t.date.year := by
  have large : Decimal.tenTo 3 ≤ t.date.year := padded
  exact Decimal.digits_eq_digitsPadded large (fits_of_exists there).1

theorem readStamp?_stamp (there : t.exists? = true) (padded : 1000 ≤ t.date.year) :
    readStamp? t.stamp = some t := by
  obtain ⟨year, month, day, hour, minute, second⟩ := fits_of_exists there
  have shown : t.stamp.toList = Decimal.digitsPadded 4 t.date.year ++
      (Decimal.digitsPadded 2 t.date.month ++ (Decimal.digitsPadded 2 t.date.day ++
        (['T'] ++ (Decimal.digitsPadded 2 t.hour ++ (Decimal.digitsPadded 2 t.minute ++
          (Decimal.digitsPadded 2 t.second ++ ['Z'])))))) := by
    simp [stamp, compactChars, digits_year there padded]
  rw [readStamp?, shown]
  simp only [Decimal.readPadded?_append, Text.dropLead?_append, Option.bind_eq_bind,
    Option.bind_some, year, month, day, hour, minute, second]
  have whole : (⟨⟨t.date.year, t.date.month, t.date.day⟩, t.hour, t.minute, t.second⟩ : Instant) =
      t := rfl
  rw [whole, there]
  rfl

theorem readExtended?_extended (there : t.exists? = true) (padded : 1000 ≤ t.date.year) :
    readExtended? t.extended = some t := by
  obtain ⟨year, month, day, hour, minute, second⟩ := fits_of_exists there
  have shown : t.extended.toList = Decimal.digitsPadded 4 t.date.year ++
      (['-'] ++ (Decimal.digitsPadded 2 t.date.month ++ (['-'] ++
        (Decimal.digitsPadded 2 t.date.day ++ (['T'] ++ (Decimal.digitsPadded 2 t.hour ++
          ([':'] ++ (Decimal.digitsPadded 2 t.minute ++ ([':'] ++
            (Decimal.digitsPadded 2 t.second ++ ['Z'])))))))))) := by
    simp [extended, digits_year there padded]
  rw [readExtended?, shown]
  simp only [Decimal.readPadded?_append, Text.dropLead?_append, Option.bind_eq_bind,
    Option.bind_some, year, month, day, hour, minute, second]
  have whole : (⟨⟨t.date.year, t.date.month, t.date.day⟩, t.hour, t.minute, t.second⟩ : Instant) =
      t := rfl
  rw [whole, there]
  rfl

theorem readName?_weekdayName {weekday : Nat} (named : weekday < 7) (rest : List Char) :
    readName? weekdayName 7 ((weekdayName weekday).toList ++ rest) = some (weekday, rest) := by
  have table : ∀ i < 7, ∀ j < 7,
      (weekdayName j).toList.length = (weekdayName i).toList.length ∧
        ((weekdayName j).toList = (weekdayName i).toList → j = i) := by decide
  exact readName?_append named (fun j below => (table weekday named j below).1)
    (fun j below => (table weekday named j below).2) rest

theorem readName?_monthName {month : Nat} (named : month < 12) (rest : List Char) :
    readName? (fun i => monthName (i + 1)) 12 ((monthName (month + 1)).toList ++ rest) =
      some (month, rest) := by
  have table : ∀ i < 12, ∀ j < 12,
      (monthName (j + 1)).toList.length = (monthName (i + 1)).toList.length ∧
        ((monthName (j + 1)).toList = (monthName (i + 1)).toList → j = i) := by decide
  exact @readName?_append (fun i => monthName (i + 1)) 12 month named
    (fun j below => (table month named j below).1) (fun j below => (table month named j below).2)
    rest

theorem readHeaderDate?_headerDate (there : t.exists? = true) :
    readHeaderDate? t.headerDate = some (t.date.weekday, t) := by
  obtain ⟨year, _, day, hour, minute, second⟩ := fits_of_exists there
  obtain ⟨_, _, named, last, _, _⟩ := Date.exists?_iff.mp (exists?_iff.mp there).1
  obtain ⟨month, numbered⟩ := Nat.exists_eq_succ_of_ne_zero (Nat.ne_of_gt named)
  have below : month < 12 := by omega
  have shown : t.headerDate.toList = (weekdayName t.date.weekday).toList ++ ([',', ' '] ++
      (Decimal.digitsPadded 2 t.date.day ++ ([' '] ++ ((monthName (month + 1)).toList ++ ([' '] ++
        (Decimal.digitsPadded 4 t.date.year ++ ([' '] ++ (Decimal.digitsPadded 2 t.hour ++
          ([':'] ++ (Decimal.digitsPadded 2 t.minute ++ ([':'] ++
            (Decimal.digitsPadded 2 t.second ++ " GMT".toList)))))))))))) := by
    simp [headerDate, numbered]
  rw [readHeaderDate?, shown]
  simp only [Decimal.readPadded?_append, Text.dropLead?_append, readName?_weekdayName,
    readName?_monthName, Option.bind_eq_bind, Option.bind_some, year, day, hour, minute, second,
    below, t.date.weekday_lt]
  have whole : (⟨⟨t.date.year, month + 1, t.date.day⟩, t.hour, t.minute, t.second⟩ : Instant) =
      t := by
    rw [← Nat.succ_eq_add_one, ← numbered]
  rw [whole, there]
  simp

end Instant

end BucketRegion.Calendar
