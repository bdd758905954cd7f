import Mathlib.Order.Monotone.Basic
import Mathlib.Tactic.IntervalCases
import OriginServer.Message.HeaderDate
import OriginServer.Proofs.Message.Length

/-!
# Dates read back

The text of a date states its instant: the day of the week, the date of the calendar and the time of
day, each with its fixed number of digits (`HeaderDate.states_format`). The calendar is that of the
leap years: the days before a date are those of the years and of the months before it. A text states
one instant at most (`HeaderDate.States.unique`), so the instant can be read back from the text.
-/
namespace OriginServer.HeaderDate

/-! ## The calendar -/

/-- Whether a year has a leap day. -/
def IsLeap (year : Nat) : Prop := 4 ∣ year ∧ (100 ∣ year → 400 ∣ year)

/-- Whether a year has a leap day is decided by its number. -/
instance (year : Nat) : Decidable (IsLeap year) :=
  inferInstanceAs (Decidable (4 ∣ year ∧ (100 ∣ year → 400 ∣ year)))

/-- The number of days of a month, from 1 for January. -/
def monthLength (year month : Nat) : Nat :=
  if month = 2 then if IsLeap year then 29 else 28
  else if month = 4 ∨ month = 6 ∨ month = 9 ∨ month = 11 then 30
  else 31

/-- The days of a year before a month; the month after December stands for the end of the year. -/
def daysBeforeMonth (year month : Nat) : Nat :=
  ((List.range' 1 (month - 1)).map (monthLength year)).sum

/-- The days from the beginning of 1970 to the beginning of a year. -/
def daysBeforeYear (year : Nat) : Nat :=
  ((List.range' 1970 (year - 1970)).map fun earlier => daysBeforeMonth earlier 13).sum

namespace Day

/-- A date that the calendar has, not before 1970. -/
structure Valid (date : Day) : Prop where
  /-- The year is not before 1970. -/
  begun : 1970 ≤ date.year
  /-- The month is one of the twelve. -/
  month : 1 ≤ date.month ∧ date.month ≤ 12
  /-- The month has the day. -/
  day : 1 ≤ date.day ∧ date.day ≤ monthLength date.year date.month

/-- The days from the beginning of 1970 to a date. -/
def number (date : Day) : Nat :=
  daysBeforeYear date.year + daysBeforeMonth date.year date.month + (date.day - 1)

end Day

/-- A year has 365 days, and one more if it is a leap year. -/
theorem length_year (year : Nat) : daysBeforeMonth year 13 = if IsLeap year then 366 else 365 := by
  have months : daysBeforeMonth year 13 = 337 + monthLength year 2 := by
    simp [daysBeforeMonth, List.range', monthLength]
    omega
  rw [months, monthLength, if_pos rfl]
  split <;> rfl

/-- A year is begun after the days of the year before it. -/
theorem daysBeforeYear_succ {year : Nat} (begun : 1970 ≤ year) :
    daysBeforeYear (year + 1) = daysBeforeYear year + daysBeforeMonth year 13 := by
  have count : year + 1 - 1970 = year - 1970 + 1 := by omega
  have last : 1970 + (year - 1970) = year := by omega
  rw [daysBeforeYear, count, List.range'_concat, Nat.one_mul, last, List.map_append,
    List.sum_append, List.map_singleton, List.sum_singleton, daysBeforeYear]

/-- The days before a year, counted by the leap days of all years before it. -/
theorem daysBeforeYear_eq {year : Nat} (begun : 1969 ≤ year) :
    daysBeforeYear (year + 1) + 719162 =
      365 * year + year / 4 - year / 100 + year / 400 := by
  induction year, begun using Nat.le_induction with
  | base => rfl
  | succ year begun ih =>
    rw [daysBeforeYear_succ (by omega), length_year]
    by_cases leap : IsLeap (year + 1)
    · rw [if_pos leap]
      rw [IsLeap] at leap
      omega
    · rw [if_neg leap]
      rw [IsLeap] at leap
      omega

/-! ## Years that begin in March -/

/-- The days of a cycle of 400 years before one of its years, all of which begin in March. -/
def daysBeforeMarch (year : Nat) : Nat := 365 * year + year / 4 - year / 100

/-- The year of a cycle of 400 years, all of which begin in March, that has a day of the cycle. -/
def yearOfCycle (day : Nat) : Nat := (day - day / 1460 + day / 36524 - day / 146096) / 365

/-- Later days lie in later years. -/
theorem monotone_yearOfCycle : Monotone yearOfCycle := by
  refine monotone_nat_of_le_succ fun day => ?_
  rw [yearOfCycle, yearOfCycle]
  apply Nat.div_le_div_right
  omega

/-- The first day of a year lies in it. -/
theorem yearOfCycle_daysBeforeMarch :
    ∀ year < 400, yearOfCycle (daysBeforeMarch year) = year := by
  decide +kernel

/-- The day before the first one of a year lies in the year before. -/
theorem yearOfCycle_before : ∀ year < 400, yearOfCycle (daysBeforeMarch (year + 1) - 1) = year := by
  decide +kernel

/-- A cycle has 400 years. -/
theorem yearOfCycle_lt {day : Nat} (inside : day < 146097) : yearOfCycle day < 400 := by
  rw [yearOfCycle]
  omega

/-- A day does not lie before the year that has it. -/
theorem daysBeforeMarch_le {day year : Nat} (inside : day < 146097) (has : yearOfCycle day = year) :
    daysBeforeMarch year ≤ day := by
  by_contra early
  have bound := yearOfCycle_lt inside
  cases year with
  | zero => simp [daysBeforeMarch] at early
  | succ year =>
    have earlier : day ≤ daysBeforeMarch (year + 1) - 1 := by omega
    have year_le := monotone_yearOfCycle earlier
    rw [yearOfCycle_before year (by omega), has] at year_le
    omega

/-- A day lies before the next year, unless the cycle ends with the year that has the day. -/
theorem lt_daysBeforeMarch {day year : Nat} (has : yearOfCycle day = year)
    (inside : year + 1 < 400) : day < daysBeforeMarch (year + 1) := by
  by_contra late
  have year_le := monotone_yearOfCycle (Nat.le_of_not_lt late)
  rw [yearOfCycle_daysBeforeMarch _ inside, has] at year_le
  omega

/-- A year of a cycle that is not its last has 365 days, and one more if the February at its end has
29. -/
theorem daysBeforeMarch_succ {year : Nat} (inner : year + 1 < 400) :
    daysBeforeMarch (year + 1) = daysBeforeMarch year + if IsLeap (year + 1) then 366 else 365 := by
  rw [daysBeforeMarch, daysBeforeMarch]
  by_cases leap : IsLeap (year + 1)
  · rw [if_pos leap]
    rw [IsLeap] at leap
    omega
  · rw [if_neg leap]
    rw [IsLeap] at leap
    omega

/-- A day is one of the 365 days of the year that has it, or the leap day at the end of the year. -/
theorem lt_of_yearOfCycle {day year : Nat} (inside : day < 146097) (has : yearOfCycle day = year) :
    day < daysBeforeMarch year + 365 ∨ day = daysBeforeMarch year + 365 ∧ IsLeap (year + 1) := by
  have bound : year < 400 := has ▸ yearOfCycle_lt inside
  by_cases inner : year + 1 < 400
  · have upper := lt_daysBeforeMarch has inner
    rw [daysBeforeMarch_succ inner] at upper
    by_cases leap : IsLeap (year + 1)
    · rw [if_pos leap] at upper
      simp only [leap, and_true]
      omega
    · rw [if_neg leap] at upper
      exact .inl upper
  · -- The cycle ends with a leap day.
    obtain rfl : year = 399 := by omega
    have start : daysBeforeMarch 399 = 145731 := rfl
    have leap : IsLeap (399 + 1) := by decide
    simp only [start, leap, and_true]
    omega

/-! ## Dates from numbers -/

/-- A leap year is one in every cycle of 400 years. -/
theorem isLeap_add_cycle (cycle year : Nat) : IsLeap (400 * cycle + year) ↔ IsLeap year := by
  rw [IsLeap, IsLeap]
  omega

/-- The place of a day in a year that begins in March. -/
structure FromMarch (days year place : Nat) : Prop where
  /-- The year is not over before the beginning of 1970. -/
  begun : 1969 ≤ year
  /-- The days before the next January and those up to the place are the days and those from March
  to December. -/
  number : daysBeforeYear (year + 1) + place = days + 306
  /-- The year has 365 days, and one more if the February at its end has 29. -/
  bound : place < 365 ∨ place = 365 ∧ IsLeap (year + 1)

/-- Every day has a place in a year that begins in March. -/
theorem fromMarch {days year : Nat} (has : yearOfCycle ((days + 719468) % 146097) = year) :
    FromMarch days (400 * ((days + 719468) / 146097) + year)
      ((days + 719468) % 146097 - daysBeforeMarch year) := by
  have whole := Nat.div_add_mod (days + 719468) 146097
  have inside : (days + 719468) % 146097 < 146097 := Nat.mod_lt _ (by decide)
  have lower := daysBeforeMarch_le inside has
  have upper := lt_of_yearOfCycle inside has
  have bound : year < 400 := has ▸ yearOfCycle_lt inside
  generalize (days + 719468) / 146097 = cycle at whole ⊢
  generalize (days + 719468) % 146097 = inCycle at whole inside lower upper ⊢
  rw [daysBeforeMarch] at lower upper ⊢
  have begun : 1969 ≤ 400 * cycle + year := by omega
  refine ⟨begun, ?_, ?_⟩
  · have counted := daysBeforeYear_eq begun
    have fourths : (400 * cycle + year) / 4 = 100 * cycle + year / 4 := by omega
    have centuries : (400 * cycle + year) / 100 = 4 * cycle + year / 100 := by omega
    have cycles : (400 * cycle + year) / 400 = cycle := by omega
    omega
  · rw [Nat.add_assoc, isLeap_add_cycle]
    exact upper.imp (by omega) (And.imp_left (by omega))

/-- The days of a year that begins in March before one of its months, from 0 for March. -/
def daysFromMarch (month : Nat) : Nat := (153 * month + 2) / 5

/-- The days before a month from March on, and its length, counted from March. -/
theorem daysBeforeMonth_of_lt (year : Nat) {month : Nat} (early : month < 10) :
    daysBeforeMonth year (month + 3) + 306 = daysBeforeMonth year 13 + daysFromMarch month ∧
      daysFromMarch (month + 1) = daysFromMarch month + monthLength year (month + 3) := by
  interval_cases month <;> simp [daysBeforeMonth, List.range', monthLength, daysFromMarch] <;> omega

namespace FromMarch

variable {days year place : Nat}

/-- A place from March to December belongs to a date of the same year. -/
theorem early {month : Nat} (fromMarch : FromMarch days year place) (early : month < 10)
    (started : daysFromMarch month ≤ place) (unended : place < daysFromMarch (month + 1)) :
    let date : Day := ⟨year, month + 3, place - daysFromMarch month + 1⟩
    date.Valid ∧ date.number = days := by
  intro date
  obtain ⟨begun, number, -⟩ := fromMarch
  obtain ⟨before, next⟩ := daysBeforeMonth_of_lt year early
  have since : 1970 ≤ year := by
    -- The count begins after the March of 1969.
    by_contra first
    obtain rfl : year = 1969 := by omega
    have zero : daysBeforeYear (1969 + 1) = 0 := rfl
    have march : daysFromMarch (month + 1) ≤ 306 := by
      rw [daysFromMarch]
      omega
    omega
  rw [daysBeforeYear_succ since] at number
  have named : 1 ≤ month + 3 ∧ month + 3 ≤ 12 := by omega
  have placed : 1 ≤ place - daysFromMarch month + 1 ∧
      place - daysFromMarch month + 1 ≤ monthLength year (month + 3) := by omega
  refine ⟨⟨since, named, placed⟩, ?_⟩
  rw [Day.number]
  dsimp only [date]
  omega

end FromMarch

/-- A text writes a number with a fixed number of decimal digits. -/
structure Numeral (width : Nat) (text : String) (number : Nat) : Prop where
  /-- There are as many digits. -/
  width : text.toList.length = width
  /-- There is nothing else. -/
  digits : ∀ digit ∈ text.toList, digit.isDigit = true
  /-- The digits write the number. -/
  value : Nat.ofDigitChars 10 text.toList 0 = number

/-- A text states an instant, in seconds from the beginning of 1970: it names the day of the week,
the date of the calendar and the time of day. -/
inductive States : String → Nat → Prop where
  /-- The parts of the text, each with what it stands for. -/
  | intro {date : Day} {hour minute second : Nat}
      {weekday day month year hours minutes seconds : String} (valid : date.Valid)
      (hour_lt : hour < 24) (minute_lt : minute < 60) (second_lt : second < 60)
      (named : dayNames[date.number % 7]? = some weekday) (placed : Numeral 2 day date.day)
      (called : monthNames[date.month - 1]? = some month) (counted : Numeral 4 year date.year)
      (struck : Numeral 2 hours hour) (passed : Numeral 2 minutes minute)
      (ticked : Numeral 2 seconds second) :
      States (weekday ++ ", " ++ day ++ " " ++ month ++ " " ++ year ++ " " ++ hours ++ ":" ++
          minutes ++ ":" ++ seconds ++ " GMT")
        (86400 * date.number + 3600 * hour + 60 * minute + second)

/-- Equal texts have equal parts before a mark if the parts are equally long. -/
theorem eq_of_append_mark {width : Nat} {part other mark rest remainder : List Char}
    (same : part ++ (mark ++ rest) = other ++ (mark ++ remainder))
    (length : part.length = width) (otherLength : other.length = width) :
    part = other ∧ rest = remainder := by
  obtain ⟨parts, rests⟩ := List.append_inj same (length.trans otherLength.symm)
  exact ⟨parts, List.append_cancel_left rests⟩

/-- A text writes one number at most. -/
theorem Numeral.unique {width number other : Nat} {text copy : String}
    (numeral : Numeral width text number) (again : Numeral width copy other)
    (same : text.toList = copy.toList) : number = other := by
  rw [← numeral.value, ← again.value, same]

/-- **A text states one instant at most.** -/
theorem States.unique {text : String} {seconds other : Nat} (states : States text seconds)
    (again : States text other) : seconds = other := by
  have weekdays : ∀ name ∈ dayNames, name.toList.length = 3 := by decide
  have months : ∀ name ∈ monthNames, name.toList.length = 3 := by decide
  have distinct : monthNames.Nodup := by decide
  obtain ⟨valid, hour_lt, minute_lt, second_lt, named, placed, called, counted, struck, passed,
    ticked⟩ := states
  generalize whole : _ ++ " GMT" = text at again
  obtain ⟨valid', hour_lt', minute_lt', second_lt', named', placed', called', counted', struck',
    passed', ticked'⟩ := again
  have letters := congrArg String.toList whole
  simp only [String.toList_append, List.append_assoc] at letters
  have week := weekdays _ (List.mem_of_getElem? named)
  have week' := weekdays _ (List.mem_of_getElem? named')
  have name := months _ (List.mem_of_getElem? called)
  have name' := months _ (List.mem_of_getElem? called')
  obtain ⟨-, letters⟩ := eq_of_append_mark letters week week'
  obtain ⟨sameDay, letters⟩ := eq_of_append_mark letters placed.width placed'.width
  obtain ⟨sameName, letters⟩ := eq_of_append_mark letters name name'
  obtain ⟨sameYear, letters⟩ := eq_of_append_mark letters counted.width counted'.width
  obtain ⟨sameHour, letters⟩ := eq_of_append_mark letters struck.width struck'.width
  obtain ⟨sameMinute, letters⟩ := eq_of_append_mark letters passed.width passed'.width
  have sameSecond := List.append_cancel_right letters
  -- The parts write the same numbers, and the names of the months are all different.
  have day := placed.unique placed' sameDay
  have year := counted.unique counted' sameYear
  have hour := struck.unique struck' sameHour
  have minute := passed.unique passed' sameMinute
  have second := ticked.unique ticked' sameSecond
  rw [← String.toList_inj.mp sameName] at called'
  have places := (List.getElem?_inj (List.getElem?_eq_some_iff.mp called).1 distinct).mp
    (called.trans called'.symm)
  have month := Nat.sub_one_cancel valid.month.1 valid'.month.1 places
  rw [Day.number, Day.number, year, month, day, hour, minute, second]

end OriginServer.HeaderDate
