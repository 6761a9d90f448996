import EditorAssist.Text.Numeral

/-! # Dates

The calendar is the Gregorian one, carried on before its introduction, with a year zero.  Time is
counted in seconds from the start of 1970, without leap seconds.  Years are counted from March
here, so that a leap day is the last day of its year; four hundred years are one cycle. -/

namespace EditorAssist.Log

/-- A date and a time of day. -/
structure DateTime where
  year : Int
  month : Int
  day : Int
  hour : Int
  minute : Int
  second : Int
deriving Repr, DecidableEq

namespace DateTime

/-- Days from the first of March of year zero to the first of January 1970. -/
def epochDay : Int := 719468

/-- Days of four hundred years. -/
def cycleDays : Int := 146097

/-- The year of a day in a cycle, counted from March. -/
def yearInCycle (day : Int) : Int := (day - day / 1460 + day / 36524 - day / 146096) / 365

/-- The day of the year, from the year and the day in a cycle. -/
def dayInYear (year day : Int) : Int := day - (365 * year + year / 4 - year / 100)

/-- The date of a day counted from the start of 1970, as year, month and day. -/
def ofDay (day : Int) : Int × Int × Int :=
  let shifted := day + epochDay
  let cycle := shifted / cycleDays
  let inCycle := shifted % cycleDays
  let year := yearInCycle inCycle
  let inYear := dayInYear year inCycle
  let month := (5 * inYear + 2) / 153
  let monthDay := inYear - (153 * month + 2) / 5 + 1
  if month < 10 then (400 * cycle + year, month + 3, monthDay)
  else (400 * cycle + year + 1, month - 9, monthDay)

/-- The date and time of a number of seconds from the start of 1970. -/
def ofSeconds (seconds : Int) : DateTime :=
  let date := ofDay (seconds / 86400)
  let rest := seconds % 86400
  ⟨date.1, date.2.1, date.2.2, rest / 3600, rest % 3600 / 60, rest % 60⟩

/-- The date and time as `YYYY-MM-DD HH:MM:SS`. -/
def text (t : DateTime) : String :=
  Text.padded 4 t.year ++ "-" ++ Text.padded 2 t.month ++ "-" ++ Text.padded 2 t.day ++ " " ++
    Text.padded 2 t.hour ++ ":" ++ Text.padded 2 t.minute ++ ":" ++ Text.padded 2 t.second

end DateTime

end EditorAssist.Log
