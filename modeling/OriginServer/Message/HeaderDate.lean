/-!
# Dates in headers

The headers `Date` and `Last-Modified` state an instant as a day of the week, a date and a time of
day in Greenwich. The form has four digits for the year and knows no year before 1970, so only
the instants from 1970 to the end of 9999 have a date: `HeaderDate` holds these.
-/
namespace OriginServer

/-- An instant from 1970 to the end of 9999, in seconds. -/
structure HeaderDate where
  /-- The seconds since the beginning of 1970. -/
  seconds : Nat
  /-- The instant lies before the year 10000. -/
  bounded : seconds < 253402300800
  deriving DecidableEq

namespace HeaderDate

/-- The instant a number of seconds after the beginning of 1970, if it has a date. -/
def ofSeconds? (seconds : Int) : Option HeaderDate :=
  if h : 0 ≤ seconds ∧ seconds < 253402300800 then some ⟨seconds.toNat, by omega⟩ else none

/-- The names of the days, by the number of days since 1970, a Thursday, modulo seven. -/
def dayNames : List String := ["Thu", "Fri", "Sat", "Sun", "Mon", "Tue", "Wed"]

/-- The names of the months, from January. -/
def monthNames : List String :=
  ["Jan", "Feb", "Mar", "Apr", "May", "Jun", "Jul", "Aug", "Sep", "Oct", "Nov", "Dec"]

/-- A date of the calendar. -/
structure Day where
  /-- The year. -/
  year : Nat
  /-- The month, from 1. -/
  month : Nat
  /-- The day of the month, from 1. -/
  day : Nat
  deriving DecidableEq, Repr

/-- The date a number of days after the beginning of 1970. Years are taken to begin in March, so
that a leap day is the last day of its year, and counted from the year 0 in cycles of 400. -/
def Day.ofNumber (days : Nat) : Day :=
  let sinceZero := days + 719468
  let inCycle := sinceZero % 146097
  let yearOfCycle := (inCycle - inCycle / 1460 + inCycle / 36524 - inCycle / 146096) / 365
  let inYear := inCycle - (365 * yearOfCycle + yearOfCycle / 4 - yearOfCycle / 100)
  let marchMonth := (5 * inYear + 2) / 153
  let month := if marchMonth < 10 then marchMonth + 3 else marchMonth - 9
  { year := sinceZero / 146097 * 400 + yearOfCycle + if month ≤ 2 then 1 else 0
    month
    day := inYear - (153 * marchMonth + 2) / 5 + 1 }

/-- A number with at least a given number of digits. -/
def padded (width number : Nat) : String :=
  let digits := toString number
  String.ofList (List.replicate (width - digits.length) '0') ++ digits

/-- The text of an instant in a header. -/
def format (date : HeaderDate) : String :=
  let days := date.seconds / 86400
  let time := date.seconds % 86400
  let day := Day.ofNumber days
  dayNames[days % 7]?.getD "" ++ ", " ++ padded 2 day.day ++ " " ++
    monthNames[day.month - 1]?.getD "" ++ " " ++ padded 4 day.year ++ " " ++
    padded 2 (time / 3600) ++ ":" ++ padded 2 (time / 60 % 60) ++ ":" ++ padded 2 (time % 60) ++
    " GMT"

/-- A leap day is found. -/
example : Day.ofNumber 11016 = ⟨2000, 2, 29⟩ := by decide

end HeaderDate

end OriginServer
