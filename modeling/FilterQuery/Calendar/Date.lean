/-
# FilterQuery.Calendar.Date -- days of the proleptic Gregorian calendar

A `Date` is a year, a month and a day that exist together; years reach from
`minYear` to `maxYear`.  A date is found again from its year and its day of the
year (`ofOrdinal?`), from its day number (`ofDayNumber?`), and from its week by
three rules: weeks that begin on Sunday or on Monday, counted from the first
such day of the year (`ofWeek?`), and the weeks of ISO 8601 (`ofIsoWeek?`).

Weekdays are numbers from 0, Monday, to 6, Sunday.
-/

namespace FilterQuery.Calendar

/-- The first year. -/
def minYear : Int := -262143

/-- The last year. -/
def maxYear : Int := 262142

/-- A year of 366 days. -/
def isLeap (year : Int) : Bool :=
  year % 4 == 0 && (year % 100 != 0 || year % 400 == 0)

/-- The number of days of a year. -/
def daysInYear (year : Int) : Nat :=
  if isLeap year then 366 else 365

/-- The number of days of a month; there is no day in a month that is none. -/
def daysInMonth (year : Int) : Nat → Nat
  | 2 => if isLeap year then 29 else 28
  | 4 | 6 | 9 | 11 => 30
  | 1 | 3 | 5 | 7 | 8 | 10 | 12 => 31
  | _ => 0

theorem inRange_of_daysInMonth {year : Int} {month : Nat} (h : daysInMonth year month ≠ 0) :
    1 ≤ month ∧ month ≤ 12 := by
  unfold daysInMonth at h
  split at h <;> omega

/-- The days of a year before a month begins. -/
def daysBefore (year : Int) : Nat → Nat
  | 0 => 0
  | month + 1 => daysBefore year month + daysInMonth year month

/-- The number of the day before the first day of a year; day 0 is 1970-01-01. -/
def dayBefore (year : Int) : Int :=
  let y := year - 1
  365 * y + y / 4 - y / 100 + y / 400 - 719163

/-- The weekday of a day number. -/
def weekdayOfNumber (n : Int) : Nat :=
  ((n + 3) % 7).toNat

/-- The number of ISO weeks of a year: 53 if its first or last day is a Thursday. -/
def isoWeeksInYear (year : Int) : Nat :=
  let first := weekdayOfNumber (dayBefore year + 1)
  if first = 3 || (first = 2 && isLeap year) then 53 else 52

/-- A day of the calendar. -/
structure Date where
  year : Int
  month : Nat
  day : Nat
  year_inRange : minYear ≤ year ∧ year ≤ maxYear
  day_inRange : 1 ≤ day ∧ day ≤ daysInMonth year month
  deriving DecidableEq, Repr

namespace Date

/-- The date of a year, a month and a day, if they name one. -/
def ofYmd? (year : Int) (month day : Nat) : Option Date :=
  if h : (minYear ≤ year ∧ year ≤ maxYear) ∧ 1 ≤ day ∧ day ≤ daysInMonth year month then
    some ⟨year, month, day, h.1, h.2⟩
  else none

/-- The day of the year, from 1. -/
def ordinal (d : Date) : Nat :=
  daysBefore d.year d.month + d.day

/-- The quarter of the year, from 1. -/
def quarter (d : Date) : Nat :=
  (d.month + 2) / 3

/-- The number of days since 1970-01-01. -/
def dayNumber (d : Date) : Int :=
  dayBefore d.year + d.ordinal

/-- The weekday, from Monday. -/
def weekday (d : Date) : Nat :=
  weekdayOfNumber d.dayNumber

/-- The month in which day `n` of a year falls, tried from `month` on for `months` months, and the
day within it. -/
def findMonth (year : Int) (n : Nat) : (months month : Nat) → Nat × Nat
  | 0, month => (month, n)
  | months + 1, month =>
    let length := daysInMonth year month
    if n ≤ length then (month, n) else findMonth year (n - length) months (month + 1)

/-- The date of a year and a day of the year. -/
def ofOrdinal? (year : Int) (n : Nat) : Option Date :=
  let (month, day) := findMonth year n 12 1
  ofYmd? year month day

/-- The date of a day number. -/
def ofDayNumber? (n : Int) : Option Date :=
  let days := n + 719162
  let inCycle := days % 146097
  let century := min 3 (inCycle / 36524)
  let inCentury := inCycle - 36524 * century
  let four := inCentury / 1461
  let inFour := inCentury % 1461
  let single := min 3 (inFour / 365)
  ofOrdinal? (400 * (days / 146097) + 100 * century + 4 * four + single + 1)
    (inFour - 365 * single + 1).toNat

/-- The day after, unless it is out of range. -/
def next? (d : Date) : Option Date :=
  if d.day < daysInMonth d.year d.month then ofYmd? d.year d.month (d.day + 1)
  else if d.month < 12 then ofYmd? d.year (d.month + 1) 1
  else ofYmd? (d.year + 1) 1 1

/-- The day before, unless it is out of range. -/
def previous? (d : Date) : Option Date :=
  if 1 < d.day then ofYmd? d.year d.month (d.day - 1)
  else if 1 < d.month then ofYmd? d.year (d.month - 1) (daysInMonth d.year (d.month - 1))
  else ofYmd? (d.year - 1) 12 31

/-! ## Weeks -/

/-- The days from weekday `first` on to weekday `day`. -/
def daysSince (first day : Nat) : Nat :=
  (day + 7 - first) % 7

/-- The week of the year when weeks begin on weekday `first`; the days before the first such day
are in week 0. -/
def week (first : Nat) (d : Date) : Nat :=
  (d.ordinal + 6 - daysSince first d.weekday) / 7

/-- The date of a weekday in a week, for weeks that begin on weekday `first`. -/
def ofWeek? (first : Nat) (year : Int) (week weekday : Nat) : Option Date :=
  if week ≤ 53 then
    let start := daysSince (weekdayOfNumber (dayBefore year + 1)) first
    let n : Int := 1 + start + (Int.ofNat week - 1) * 7 + daysSince first weekday
    if n ≤ 0 then none else ofOrdinal? year n.toNat
  else none

/-- The year to which the ISO week of a date belongs, and the number of the week. -/
def isoWeek (d : Date) : Int × Nat :=
  let n := (d.ordinal + 9 - d.weekday) / 7
  if n < 1 then (d.year - 1, isoWeeksInYear (d.year - 1))
  else if isoWeeksInYear d.year < n then (d.year + 1, 1)
  else (d.year, n)

/-- The date of a weekday in an ISO week. -/
def ofIsoWeek? (year : Int) (week weekday : Nat) : Option Date :=
  if 1 ≤ week && week ≤ isoWeeksInYear year then
    let fourth := weekdayOfNumber (dayBefore year + 4)
    let n : Int := 7 * Int.ofNat week + weekday - fourth - 3
    if n ≤ 0 then ofOrdinal? (year - 1) (n + daysInYear (year - 1)).toNat
    else if n ≤ daysInYear year then ofOrdinal? year n.toNat
    else ofOrdinal? (year + 1) (n - daysInYear year).toNat
  else none

theorem month_inRange (d : Date) : 1 ≤ d.month ∧ d.month ≤ 12 := by
  have days : daysInMonth d.year d.month ≠ 0 := by
    have := d.day_inRange
    omega
  exact inRange_of_daysInMonth days

end Date

end FilterQuery.Calendar
