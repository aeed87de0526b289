/-!
# Instants as text

An instant is a number of milliseconds since the beginning of 1970. Its text gives the date and the
time of day, without a zone; years have no fewer than four digits.

* `Timestamp.dateOfDay`: the date of a day, in the calendar that has leap years;
* `Timestamp.print`: the text of an instant.

Years are taken to begin in March, so that a leap day is the last day of its year. The days before
March are counted with the year before.
-/

namespace ReactiveResource.Timestamp

/-- The days of four hundred years. -/
def daysOfCycle : Nat := 146097

/-- The days between the first of March of the year 0 and the beginning of 1970. -/
def daysBefore : Nat := 719468

/-- The year within four hundred years to which a day belongs. -/
def yearOfCycleDay (day : Nat) : Nat :=
  (day - day / 1460 + day / 36524 - day / 146096) / 365

/-- The number of the first day of a year within four hundred years. -/
def firstDayOfYear (year : Nat) : Nat := 365 * year + year / 4 - year / 100

/-- Year, month and day of the day that comes so many days after the first one of 1970. -/
def dateOfDay (day : Nat) : Nat × Nat × Nat :=
  let day := day + daysBefore
  let cycleDay := day % daysOfCycle
  let year := yearOfCycleDay cycleDay
  let yearDay := cycleDay - firstDayOfYear year
  let month := (5 * yearDay + 2) / 153
  let monthDay := yearDay - (153 * month + 2) / 5 + 1
  let year := day / daysOfCycle * 400 + year
  if month < 10 then (year, month + 3, monthDay) else (year + 1, month - 9, monthDay)

/-- A number with no fewer digits than a width. -/
def padded (width n : Nat) : String :=
  let digits := toString n
  String.ofList (List.replicate (width - digits.length) '0') ++ digits

/-- The text of an instant. Milliseconds are left out if there are none. -/
def print (millis : Nat) : String :=
  let seconds := millis / 1000
  let (year, month, day) := dateOfDay (seconds / 86400)
  let date := padded 4 year ++ "-" ++ padded 2 month ++ "-" ++ padded 2 day
  let time := padded 2 (seconds / 3600 % 24) ++ ":" ++ padded 2 (seconds / 60 % 60) ++ ":"
    ++ padded 2 (seconds % 60)
  let fraction := if millis % 1000 = 0 then "" else "." ++ padded 3 (millis % 1000)
  date ++ "T" ++ time ++ fraction ++ "Z"

end ReactiveResource.Timestamp
