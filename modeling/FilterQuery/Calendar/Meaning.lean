/-
# FilterQuery.Calendar.Meaning -- what a date text says, and what is kept of it

A date text gives fields, by the quantities that the parts of its pattern stand for
(`Item.quantities`).  A timestamp keeps them (`Fields.Keeps`) if it is the moment at which clocks
with the offset that is given, or in UTC if there is none, show the date and the time of day that
are given.  Midnight is a time that nobody gave, so it is kept to only where no part of a time and
no offset is given (`Fields.IsDay`).

Texts are read in three ways, and the last one looks at the day alone.  `Fields.Faithful` says
that what is read keeps the fields and that the last way is left to days, and `Fields.Complete`
says of which fields this holds.
-/
import FilterQuery.Calendar.Pattern

namespace FilterQuery.Calendar

/-- At the moment `t` in UTC, clocks `offset` minutes ahead of UTC show `l`. -/
structure Timestamp.ShownAs (t l : Timestamp) (offset : Int) : Prop where
  seconds : t.unixSeconds = l.unixSeconds - 60 * offset
  second : t.clock.second = l.clock.second
  nano : t.clock.nano = l.clock.nano

/-- A part of a time of day, or a count of seconds, which has a time of day in it. -/
def Quantity.isTime : Quantity → Bool
  | .halfOfDay | .hourOfHalf | .minute | .second | .nano | .unixSeconds => true
  | _ => false

/-! ## Fields -/

namespace Fields

/-- The offset from UTC in minutes; none if no offset is given. -/
def utcOffset (f : Fields) : Int :=
  (f.get .offset).getD 0

/-- No part of a time of day is given, and no offset. -/
def IsDay (f : Fields) : Prop :=
  ∀ q, q.isTime = true ∨ q = .offset → f.get q = none

/-- The timestamp that is read from the fields: the first of their three meanings. -/
def read? (f : Fields) : Option Timestamp :=
  f.utc? <|> f.local? 0 <|> f.date.toOption.map (⟨·, .midnight⟩)

/-- The timestamp is what the fields say. -/
inductive Keeps (f : Fields) : Timestamp → Prop where
  | moment {t l : Timestamp} :
      f.local? f.utcOffset = some l → t.ShownAs l f.utcOffset → Keeps f t
  | day {d : Date} : f.IsDay → f.date = .ok d → Keeps f ⟨d, .midnight⟩

/-- The timestamp that is read is what the fields say, and midnight is taken for days only. -/
structure Faithful (f : Fields) (t : Timestamp) : Prop where
  keeps : f.Keeps t
  day_of_midnight : f.utc? = none → f.local? 0 = none → f.IsDay

/-- The date and the time of day follow without a count of seconds. -/
def HasDateAndClock (f : Fields) : Prop :=
  (∃ d, f.date = .ok d) ∧ ∃ c, f.clock = .ok c

/-- The fields give a day alone, or a date and a time of day.  An offset, if there is one, is below
a day and leads to no year out of range, unless a count of seconds stands for what is missing of
date and time; such a count is in UTC anyway. -/
inductive Complete (f : Fields) : Prop where
  | day : f.IsDay → Complete f
  | utc {l : Timestamp} : f.get .offset = none → f.local? 0 = some l → Complete f
  | offset {offset : Int} {l t : Timestamp} : f.get .offset = some offset →
      -1440 < offset → offset < 1440 → f.local? offset = some l → l.earlier? offset = some t →
      Complete f
  | counted {offset : Int} {l t : Timestamp} : f.get .offset = some offset →
      ¬ f.HasDateAndClock → f.local? offset = some l → f.local? 0 = some t → Complete f

end Fields

/-! ## Patterns -/

/-- What is given by a number. -/
def Numeral.quantities : Numeral → List Quantity
  | year => [.year]
  | century => [.century]
  | yearOfCentury => [.yearOfCentury]
  | isoYear => [.isoYear]
  | isoYearOfCentury => [.isoYearOfCentury]
  | quarter => [.quarter]
  | month => [.month]
  | day => [.day]
  | weekFromSunday => [.weekFromSunday]
  | weekFromMonday => [.weekFromMonday]
  | isoWeek => [.isoWeek]
  | weekdayFromZero | weekdayFromOne => [.weekday]
  | ordinal => [.ordinal]
  | hour => [.halfOfDay, .hourOfHalf]
  | hour12 => [.hourOfHalf]
  | minute => [.minute]
  | second => [.second]
  | nano => [.nano]
  | unixSeconds => [.unixSeconds]

/-- What is given by an element of a pattern, but for fractions of a second that need not be
there. -/
def Item.quantities : Item → List Quantity
  | numeral what => what.quantities
  | monthName _ => [.month]
  | weekdayName _ => [.weekday]
  | halfOfDay => [.halfOfDay]
  | fixedFraction false _ => [.nano]
  | offset _ => [.offset]
  | relaxedTimestamp =>
    [.year, .month, .day, .halfOfDay, .hourOfHalf, .minute, .second, .offset]
  | literal _ | blanks | fraction | fixedFraction true _ | zoneName | invalid => []

end FilterQuery.Calendar
