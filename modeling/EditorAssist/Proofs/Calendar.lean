import Mathlib.Data.List.Lex
import Mathlib.Order.Monotone.Basic
import Mathlib.Tactic.IntervalCases
import EditorAssist.Log.Calendar

/-! # The calendar, second after second

The date of a day is computed from the number of the day.  Here the calendar is said the way it is
read off the wall: which years are leap years, how long each month is, and which date and time
follow a date and time (`DateTime.next`).  The computed date and time of every second is what
follows the one of the second before, so the computed calendar is the one that is told here.

Years are counted from March in the computation; `yearStart` is the first day of such a year.

* `ofDay_add_one`, `ofSeconds_add_one`: the computed calendar goes on as the told one;
* `isValid_ofSeconds`: the computed numbers are those of a date and a time of day;
* `fields_ofSeconds_lt_iff`: later seconds have later dates and times. -/

namespace EditorAssist.Log.DateTime

/-! ### The calendar as it is told -/

/-- The year has a twenty-ninth of February. -/
def IsLeapYear (year : Int) : Prop := year % 4 = 0 ∧ (year % 100 = 0 → year % 400 = 0)

instance (year : Int) : Decidable (IsLeapYear year) :=
  inferInstanceAs (Decidable (_ ∧ (_ → _)))

/-- The number of days of a month. -/
def monthLength (year month : Int) : Int :=
  if month = 2 then if IsLeapYear year then 29 else 28
  else if month = 4 ∨ month = 6 ∨ month = 9 ∨ month = 11 then 30
  else 31

theorem monthLength_le (year month : Int) : monthLength year month ≤ 31 := by
  unfold monthLength
  split_ifs <;> omega

/-- The date that follows a date, both as year, month and day. -/
def dayAfter : Int × Int × Int → Int × Int × Int
  | (year, month, day) =>
    if day < monthLength year month then (year, month, day + 1)
    else if month < 12 then (year, month + 1, 1)
    else (year + 1, 1, 1)

/-- The date and time one second later. -/
def next (t : DateTime) : DateTime :=
  if t.second < 59 then { t with second := t.second + 1 }
  else if t.minute < 59 then { t with minute := t.minute + 1, second := 0 }
  else if t.hour < 23 then { t with hour := t.hour + 1, minute := 0, second := 0 }
  else
    let date := dayAfter (t.year, t.month, t.day)
    ⟨date.1, date.2.1, date.2.2, 0, 0, 0⟩

/-- The numbers are those of a date and a time of day. -/
structure IsValid (t : DateTime) : Prop where
  month : 1 ≤ t.month ∧ t.month ≤ 12
  day : 1 ≤ t.day ∧ t.day ≤ monthLength t.year t.month
  hour : 0 ≤ t.hour ∧ t.hour < 24
  minute : 0 ≤ t.minute ∧ t.minute < 60
  second : 0 ≤ t.second ∧ t.second < 60

/-! ### Years from March to March -/

/-- Days from the first of March of year zero to the first of March of a year. -/
def yearStart (year : Int) : Int := 365 * year + year / 4 - year / 100 + year / 400

/-- Days of a year that starts in March.  Its leap day belongs to the year after it. -/
def yearLength (year : Int) : Int := if IsLeapYear (year + 1) then 366 else 365

theorem yearLength_range (year : Int) : 365 ≤ yearLength year ∧ yearLength year ≤ 366 := by
  unfold yearLength
  split <;> omega

theorem yearStart_add_one (year : Int) :
    yearStart (year + 1) = yearStart year + yearLength year := by
  unfold yearLength
  by_cases hleap : IsLeapYear (year + 1)
  · rw [if_pos hleap]
    unfold IsLeapYear at hleap
    unfold yearStart
    omega
  · rw [if_neg hleap]
    unfold IsLeapYear at hleap
    unfold yearStart
    omega

theorem yearStart_mono {year year' : Int} (h : year ≤ year') :
    yearStart year ≤ yearStart year' := by
  unfold yearStart
  omega

/-- The day lies in the year, so many days after its start. -/
structure InYear (day year inYear : Int) : Prop where
  eq : day + epochDay = yearStart year + inYear
  start : 0 ≤ inYear
  stop : day + epochDay < yearStart (year + 1)

/-- A day lies in one year only. -/
theorem InYear.unique {day year inYear year' inYear' : Int} (h : InYear day year inYear)
    (h' : InYear day year' inYear') : year = year' ∧ inYear = inYear' := by
  obtain ⟨heq, hstart, hstop⟩ := h
  obtain ⟨heq', hstart', hstop'⟩ := h'
  have hyear : year = year' := by
    rcases Int.lt_trichotomy year year' with hlt | rfl | hlt
    · have hle : yearStart (year + 1) ≤ yearStart year' := yearStart_mono hlt
      omega
    · rfl
    · have hle : yearStart (year' + 1) ≤ yearStart year := yearStart_mono hlt
      omega
  subst hyear
  exact ⟨rfl, by omega⟩

/-! ### Years of a cycle -/

/-- A day of a cycle, by its hundred years, its four years, its year in these, and what is left.  A
further day ends only the last of four years, and only if these are not the last of their hundred
years, or if those are the last of the cycle. -/
structure CyclePlace where
  century : Int
  four : Int
  year : Int
  rest : Int
  century_range : 0 ≤ century ∧ century ≤ 3
  four_range : 0 ≤ four ∧ four ≤ 24
  year_range : 0 ≤ year ∧ year ≤ 3
  rest_range : 0 ≤ rest ∧ rest ≤ 365
  leap : rest = 365 → year = 3 ∧ (four = 24 → century = 3)

namespace CyclePlace

/-- The number of the day in its cycle. -/
def day (p : CyclePlace) : Int := 36524 * p.century + 1461 * p.four + 365 * p.year + p.rest

/-- The number of the year in its cycle. -/
def wholeYear (p : CyclePlace) : Int := 100 * p.century + 4 * p.four + p.year

/-- Every day of a cycle has its place. -/
theorem exists_day {day : Int} (h : 0 ≤ day) (hlt : day < cycleDays) :
    ∃ p : CyclePlace, p.day = day := by
  unfold cycleDays at hlt
  obtain ⟨century, hcentury⟩ : ∃ century, century = min (day / 36524) 3 := ⟨_, rfl⟩
  obtain ⟨four, hfour⟩ : ∃ four, four = min ((day - 36524 * century) / 1461) 24 := ⟨_, rfl⟩
  obtain ⟨year, hyear⟩ :
      ∃ year, year = min ((day - 36524 * century - 1461 * four) / 365) 3 := ⟨_, rfl⟩
  refine ⟨⟨century, four, year, day - 36524 * century - 1461 * four - 365 * year, by omega,
    by omega, by omega, by omega, by omega⟩, ?_⟩
  simp only [CyclePlace.day]
  omega

/-- The computed year of a day in a cycle is the year of its place. -/
theorem yearInCycle_day (p : CyclePlace) : yearInCycle p.day = p.wholeYear := by
  obtain ⟨century, four, year, rest, hcentury, hfour, hyear, hrest, hleap⟩ := p
  simp only [CyclePlace.day, wholeYear, yearInCycle]
  generalize hday : 36524 * century + 1461 * four + 365 * year + rest = day
  have hhundreds : day / 36524 - day / 146096 = century := by
    by_cases hlast : day = 146096
    · omega
    · have hbefore : day / 146096 = 0 := by omega
      have hwithin : day < 36524 * (century + 1) := by omega
      omega
  -- late in the last of four years the quotient is one ahead, which leaves the year as it is
  have hfours : day / 1460 = 25 * century + four ∧ rest < 365 ∨
      day / 1460 = 25 * century + four + 1 ∧ 0 < rest := by omega
  omega

theorem dayInYear_day (p : CyclePlace) : dayInYear p.wholeYear p.day = p.rest := by
  obtain ⟨century, four, year, rest, hcentury, hfour, hyear, hrest, hleap⟩ := p
  simp only [CyclePlace.day, wholeYear, dayInYear]
  omega

/-- The place is the one of the day in its year, after any number of cycles. -/
theorem inYear {day cycle : Int} (p : CyclePlace) (h : day + epochDay = 146097 * cycle + p.day) :
    InYear day (400 * cycle + p.wholeYear) p.rest := by
  obtain ⟨century, four, year, rest, hcentury, hfour, hyear, hrest, hleap⟩ := p
  simp only [CyclePlace.day, wholeYear] at h ⊢
  constructor
  · unfold yearStart
    omega
  · exact hrest.1
  · unfold yearStart
    omega

end CyclePlace

/-! ### Months from March on -/

/-- Days from the first of March to the first day of a month, counted from March. -/
def monthStart (month : Int) : Int := (153 * month + 2) / 5

/-- The year and the month of a month that is counted from March. -/
def civilMonth (year month : Int) : Int × Int :=
  if month < 10 then (year, month + 3) else (year + 1, month - 9)

/-- The date of a day in a year that starts in March. -/
def ofYearDay (year inYear : Int) : Int × Int × Int :=
  let month := (5 * inYear + 2) / 153
  ((civilMonth year month).1, (civilMonth year month).2, inYear - monthStart month + 1)

/-- A month ends where the next one starts, and February with its year. -/
theorem monthLength_civilMonth {year month : Int} (h : 0 ≤ month ∧ month ≤ 11) :
    monthLength (civilMonth year month).1 (civilMonth year month).2 =
      min (monthStart (month + 1)) (yearLength year) - monthStart month := by
  obtain ⟨hlow, hhigh⟩ := h
  by_cases hleap : IsLeapYear (year + 1)
  · interval_cases month <;> simp [civilMonth, monthLength, monthStart, yearLength, hleap]
  · interval_cases month <;> simp [civilMonth, monthLength, monthStart, yearLength, hleap]

/-- The month after a month; a new year starts after the twelfth. -/
theorem civilMonth_add_one {year month : Int} (h : 0 ≤ month ∧ month ≤ 10) :
    civilMonth year (month + 1) =
      if (civilMonth year month).2 < 12 then
        ((civilMonth year month).1, (civilMonth year month).2 + 1)
      else ((civilMonth year month).1 + 1, 1) := by
  obtain ⟨hlow, hhigh⟩ := h
  interval_cases month <;> simp [civilMonth]

/-- The month of a day is the one that the day lies in. -/
theorem exists_month {year inYear : Int} (hstart : 0 ≤ inYear) (hstop : inYear < yearLength year) :
    ∃ month, (5 * inYear + 2) / 153 = month ∧ (0 ≤ month ∧ month ≤ 11) ∧
      monthStart month ≤ inYear ∧ inYear < monthStart (month + 1) := by
  have hlength := yearLength_range year
  refine ⟨_, rfl, ?_, ?_, ?_⟩
  · omega
  · unfold monthStart
    omega
  · unfold monthStart
    omega

/-- Inside a year that starts in March, the date of the next day follows the date of a day. -/
theorem ofYearDay_add_one {year inYear : Int} (hstart : 0 ≤ inYear)
    (hstop : inYear + 1 < yearLength year) :
    ofYearDay year (inYear + 1) = dayAfter (ofYearDay year inYear) := by
  obtain ⟨month, hmonth, hrange, hfirst, hlast⟩ :=
    exists_month hstart (by omega : inYear < yearLength year)
  obtain ⟨month', hmonth', hrange', hfirst', hlast'⟩ :=
    exists_month (by omega : 0 ≤ inYear + 1) hstop
  simp only [ofYearDay, hmonth, hmonth', dayAfter, monthLength_civilMonth hrange]
  by_cases hsame : inYear + 1 < monthStart (month + 1)
  · have heq : month' = month := by
      unfold monthStart at *
      omega
    rw [if_pos (by omega), heq]
    simp only [Prod.mk.injEq, true_and]
    omega
  · have heq : month' = month + 1 := by
      unfold monthStart at *
      omega
    have hday : inYear + 1 - monthStart (month + 1) + 1 = 1 := by omega
    rw [if_neg (by omega), heq, hday, civilMonth_add_one (by omega)]
    split <;> rfl

/-- After the last day of a year that starts in March comes the first of March. -/
theorem ofYearDay_last (year : Int) :
    ofYearDay (year + 1) 0 = dayAfter (ofYearDay year (yearLength year - 1)) := by
  have hlength := yearLength_range year
  have hmonth : (5 * (yearLength year - 1) + 2) / 153 = 11 := by omega
  have hfebruary := @monthLength_civilMonth year 11 (by omega)
  simp only [ofYearDay, hmonth, dayAfter, hfebruary]
  rw [if_neg (by unfold monthStart; omega)]
  rfl

/-! ### Days -/

/-- Every day lies in a year, and its date is computed from there. -/
theorem exists_inYear (day : Int) :
    ∃ year inYear, InYear day year inYear ∧ ofDay day = ofYearDay year inYear := by
  have hcycle : 0 ≤ (day + epochDay) % cycleDays ∧ (day + epochDay) % cycleDays < cycleDays := by
    unfold cycleDays
    omega
  obtain ⟨p, hp⟩ := CyclePlace.exists_day hcycle.1 hcycle.2
  refine ⟨400 * ((day + epochDay) / cycleDays) + p.wholeYear, p.rest, p.inYear ?_, ?_⟩
  · rw [hp]
    unfold cycleDays
    omega
  · unfold ofDay ofYearDay civilMonth monthStart
    simp only [← hp, p.yearInCycle_day, p.dayInYear_day]
    split <;> rfl

theorem ofDay_of_inYear {day year inYear : Int} (h : InYear day year inYear) :
    ofDay day = ofYearDay year inYear := by
  obtain ⟨year', inYear', h', heq⟩ := exists_inYear day
  obtain ⟨rfl, rfl⟩ := h.unique h'
  exact heq

theorem InYear.lt_yearLength {day year inYear : Int} (h : InYear day year inYear) :
    inYear < yearLength year := by
  obtain ⟨heq, -, hstop⟩ := h
  rw [yearStart_add_one] at hstop
  omega

/-- **The dates of the days follow each other.** -/
theorem ofDay_add_one (day : Int) : ofDay (day + 1) = dayAfter (ofDay day) := by
  obtain ⟨year, inYear, h, hdate⟩ := exists_inYear day
  have hlength := h.lt_yearLength
  obtain ⟨heq, hstart, -⟩ := h
  rw [hdate]
  by_cases hlast : inYear + 1 < yearLength year
  · have hnext : InYear (day + 1) year (inYear + 1) :=
      ⟨by omega, by omega, by rw [yearStart_add_one]; omega⟩
    rw [ofDay_of_inYear hnext, ofYearDay_add_one hstart hlast]
  · obtain rfl : inYear = yearLength year - 1 := by omega
    have hlonger := yearLength_range (year + 1)
    have hnext : InYear (day + 1) (year + 1) 0 :=
      ⟨by rw [yearStart_add_one]; omega, by omega, by
        rw [yearStart_add_one (year + 1), yearStart_add_one year]; omega⟩
    rw [ofDay_of_inYear hnext, ofYearDay_last]

/-- The month and the day of a date. -/
theorem ofDay_range (day : Int) :
    (1 ≤ (ofDay day).2.1 ∧ (ofDay day).2.1 ≤ 12) ∧
      1 ≤ (ofDay day).2.2 ∧ (ofDay day).2.2 ≤ monthLength (ofDay day).1 (ofDay day).2.1 := by
  obtain ⟨year, inYear, h, hdate⟩ := exists_inYear day
  obtain ⟨month, hmonth, hrange, hfirst, hlast⟩ := exists_month h.start h.lt_yearLength
  have hlength := h.lt_yearLength
  simp only [hdate, ofYearDay, hmonth, monthLength_civilMonth hrange]
  refine ⟨?_, by omega, by omega⟩
  unfold civilMonth
  split <;> dsimp only <;> omega

/-! ### Seconds -/

/-- **The dates and times of the seconds follow each other.** -/
theorem ofSeconds_add_one (seconds : Int) : ofSeconds (seconds + 1) = (ofSeconds seconds).next := by
  by_cases hmidnight : seconds % 86400 = 86399
  · have hday : (seconds + 1) / 86400 = seconds / 86400 + 1 := by omega
    have hrest : (seconds + 1) % 86400 = 0 := by omega
    simp only [ofSeconds, next, hday, hrest, hmidnight, ofDay_add_one]
    rfl
  · have hday : (seconds + 1) / 86400 = seconds / 86400 := by omega
    have hrest : (seconds + 1) % 86400 = seconds % 86400 + 1 := by omega
    unfold next
    split
    · next hsecond =>
        simp only [ofSeconds, hday, hrest, DateTime.mk.injEq, true_and] at hsecond ⊢
        omega
    split
    · next hsecond hminute =>
        simp only [ofSeconds, hday, hrest, DateTime.mk.injEq, true_and] at hsecond hminute ⊢
        omega
    split
    · next hsecond hminute hhour =>
        simp only [ofSeconds, hday, hrest, DateTime.mk.injEq, true_and] at hsecond hminute hhour ⊢
        omega
    · next hsecond hminute hhour =>
        simp only [ofSeconds] at hsecond hminute hhour
        omega

-- The seconds are counted from the start of 1970.
example : ofSeconds 0 = ⟨1970, 1, 1, 0, 0, 0⟩ := by decide

theorem isValid_ofSeconds (seconds : Int) : (ofSeconds seconds).IsValid := by
  obtain ⟨hmonth, hday⟩ := ofDay_range (seconds / 86400)
  unfold ofSeconds
  constructor
  · exact hmonth
  · exact hday
  · dsimp only
    omega
  · dsimp only
    omega
  · dsimp only
    omega

/-- The numbers of a date and time, from the year down to the second. -/
def fields (t : DateTime) : List Int := [t.year, t.month, t.day, t.hour, t.minute, t.second]

/-- The next second is later. -/
theorem fields_lt_next (t : DateTime) : t.fields < t.next.fields := by
  unfold next
  split
  · simp [fields, List.cons_lt_cons_iff]
  split
  · simp [fields, List.cons_lt_cons_iff]
  split
  · simp [fields, List.cons_lt_cons_iff]
  · simp only [dayAfter]
    split
    · simp [fields, List.cons_lt_cons_iff]
    split
    · simp [fields, List.cons_lt_cons_iff]
    · simp [fields, List.cons_lt_cons_iff]

/-- **Later seconds have later dates and times.** -/
theorem fields_ofSeconds_lt_iff {seconds seconds' : Int} :
    (ofSeconds seconds).fields < (ofSeconds seconds').fields ↔ seconds < seconds' := by
  have hmono : StrictMono fun seconds => (ofSeconds seconds).fields := by
    apply strictMono_int_of_lt_succ
    intro seconds
    rw [ofSeconds_add_one]
    exact fields_lt_next (ofSeconds seconds)
  exact hmono.lt_iff_lt

theorem year_le_of_le {seconds seconds' : Int} (h : seconds ≤ seconds') :
    (ofSeconds seconds).year ≤ (ofSeconds seconds').year := by
  by_contra hlt
  have hfields : (ofSeconds seconds').fields < (ofSeconds seconds).fields :=
    List.cons_lt_cons_iff.mpr (.inl (not_le.mp hlt))
  have hback : seconds' < seconds := fields_ofSeconds_lt_iff.mp hfields
  omega

end EditorAssist.Log.DateTime
