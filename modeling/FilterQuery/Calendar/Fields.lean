/-
# FilterQuery.Calendar.Fields -- what a date text says, and the date it means

Reading a date text by a pattern fills in *fields*: numbers for the quantities
in which dates and times are written.  A quantity that is given twice must be
given the same number (`put?`), and numbers have the range of their quantity.

A date follows from the first of these that is complete: year, month and day;
year and day of the year; year, week and weekday, for weeks from Sunday, then
for weeks from Monday; ISO year, ISO week and weekday.  All other fields of the
date must then agree with it.  A time of day needs the half of the day, the hour
in it and the minute.  A count of seconds since 1970 gives both by itself.

Failure is of two kinds (`Unresolved`), because a count of seconds can make up
for what is missing but not for what is contradictory.
-/
import FilterQuery.Calendar.Timestamp

namespace FilterQuery.Calendar

/-- The quantities in which dates and times are written. -/
inductive Quantity where
  | year
  | century
  | yearOfCentury
  | isoYear
  | isoYearOfCentury
  | quarter
  | month
  | weekFromSunday
  | weekFromMonday
  | isoWeek
  | weekday
  | ordinal
  | day
  | halfOfDay
  | hourOfHalf
  | minute
  | second
  | nano
  | unixSeconds
  | offset
  deriving DecidableEq, Repr

/-- The numbers given so far. -/
structure Fields where
  get : Quantity → Option Int

namespace Fields

/-- Nothing is given. -/
def empty : Fields :=
  ⟨fun _ => none⟩

/-- Gives a number for a quantity, which must not have another number yet. -/
def put? (f : Fields) (q : Quantity) (n : Int) : Option Fields :=
  match f.get q with
  | none => some ⟨fun q' => if q' = q then some n else f.get q'⟩
  | some m => if m = n then some f else none

/-- Gives a number that must lie in a range. -/
def putIn? (f : Fields) (q : Quantity) (low high n : Int) : Option Fields :=
  if low ≤ n && n ≤ high then f.put? q n else none

/-- Gives the hour of the day. -/
def putHour? (f : Fields) (n : Int) : Option Fields :=
  if 0 ≤ n && n ≤ 23 then do (← f.put? .halfOfDay (n / 12)).put? .hourOfHalf (n % 12) else none

/-- A quantity is not given or has this number. -/
def agrees (f : Fields) (q : Quantity) (n : Int) : Bool :=
  (f.get q).all (· == n)

/-- A quantity is not given, or it has the number that there is. -/
def agreesIfAny (f : Fields) (q : Quantity) (n? : Option Int) : Bool :=
  match f.get q with
  | none => true
  | some n => n? == some n

/-- A quantity as a natural number. -/
def getNat (f : Fields) (q : Quantity) : Option Nat :=
  (f.get q).map Int.toNat

/-- Why no date or time follows from the fields. -/
inductive Unresolved where
  | missing
  | contradictory
  deriving DecidableEq, Repr

/-! ## Years -/

/-- The year that a full year, a century and a year of the century give together.  Two digits
alone mean a year from 1970 to 2069, and a year before 0 has no century. -/
def resolveYear : (year century rest : Option Int) → Except Unresolved (Option Int)
  | year, none, none => .ok year
  | some y, century, rest =>
    if y < 0 then .error .contradictory
    else if century.all (· == y / 100) && rest.all (· == y % 100) then .ok (some y)
    else .error .contradictory
  | none, some c, some r => .ok (some (100 * c + r))
  | none, none, some r => .ok (some (r + if r < 70 then 2000 else 1900))
  | none, some _, none => .error .missing

/-- A year before 0 has no century and no year in it. -/
def centuryOf (year : Int) : Option Int :=
  if 0 ≤ year then some (year / 100) else none

/-- The year in the century, for years that have a century. -/
def inCentury (year : Int) : Option Int :=
  if 0 ≤ year then some (year % 100) else none

/-! ## Dates -/

/-- Year, month and day agree with a date. -/
def agreesYmd (f : Fields) (d : Date) : Bool :=
  f.agrees .year d.year && f.agreesIfAny .century (centuryOf d.year) &&
    f.agreesIfAny .yearOfCentury (inCentury d.year) && f.agrees .month d.month &&
    f.agrees .day d.day

/-- ISO year, ISO week and weekday agree with a date. -/
def agreesIso (f : Fields) (d : Date) : Bool :=
  let (year, week) := d.isoWeek
  f.agrees .isoYear year && f.agreesIfAny .isoYearOfCentury (inCentury year) &&
    f.agrees .isoWeek week && f.agrees .weekday d.weekday

/-- The day of the year and the weeks counted in it agree with a date. -/
def agreesOrdinal (f : Fields) (d : Date) : Bool :=
  f.agrees .ordinal d.ordinal && f.agrees .weekFromSunday (d.week 6) &&
    f.agrees .weekFromMonday (d.week 0)

/-- A date found in one way, if it exists and agrees with what else is given. -/
def checked (f : Fields) (found : Option Date) (agreement : Date → Bool) : Except Unresolved Date :=
  match found with
  | none => .error .contradictory
  | some d => if agreement d && f.agrees .quarter d.quarter then .ok d else .error .contradictory

/-- The date that the fields mean. -/
def date (f : Fields) : Except Unresolved Date := do
  let year ← resolveYear (f.get .year) (f.get .century) (f.get .yearOfCentury)
  let isoYear ← resolveYear (f.get .isoYear) none (f.get .isoYearOfCentury)
  match year, f.getNat .month, f.getNat .day with
  | some y, some m, some d =>
    f.checked (Date.ofYmd? y m d) fun d => f.agreesIso d && f.agreesOrdinal d
  | _, _, _ =>
  match year, f.getNat .ordinal with
  | some y, some n =>
    f.checked (Date.ofOrdinal? y n) fun d => f.agreesYmd d && f.agreesIso d && f.agreesOrdinal d
  | _, _ =>
  match year, f.getNat .weekFromSunday, f.getNat .weekday with
  | some y, some w, some wd =>
    f.checked (Date.ofWeek? 6 y w wd) fun d =>
      f.agreesYmd d && f.agreesIso d && f.agreesOrdinal d
  | _, _, _ =>
  match year, f.getNat .weekFromMonday, f.getNat .weekday with
  | some y, some w, some wd =>
    f.checked (Date.ofWeek? 0 y w wd) fun d =>
      f.agreesYmd d && f.agreesIso d && f.agreesOrdinal d
  | _, _, _ =>
  match isoYear, f.getNat .isoWeek, f.getNat .weekday with
  | some y, some w, some wd =>
    f.checked (Date.ofIsoWeek? y w wd) fun d => f.agreesYmd d && f.agreesOrdinal d
  | _, _, _ => .error .missing

/-! ## Times -/

/-- The time of day that the fields mean; a fraction of a second needs the second. -/
def clock (f : Fields) : Except Unresolved Clock :=
  match f.getNat .halfOfDay, f.getNat .hourOfHalf, f.getNat .minute with
  | some half, some hour, some minute =>
    match f.getNat .second, f.getNat .nano with
    | none, some _ => .error .missing
    | second, nano =>
      match Clock.of? (12 * half + hour) minute (second.getD 0) (nano.getD 0) with
      | some c => .ok c
      | none => .error .contradictory
  | _, _, _ => .error .missing

/-- A count of seconds fits a timestamp that is `offset` minutes ahead of UTC; the count of a leap
second may be that of the second after it. -/
def countFits (t : Timestamp) (offset count : Int) : Bool :=
  let own := t.unixSeconds - 60 * offset
  count == own || (t.clock.second == 60 && count == own + 1)

/-- The fields with those that a count of seconds gives filled in. -/
def fillFromCount? (f : Fields) (seconds : Int) : Option Fields := do
  let t ← Timestamp.ofUnixSeconds? seconds
  let (f, t) ←
    if f.get .second = some 60 then
      if t.clock.second = 59 then some (f, t)
      else if t.clock.second = 0 then (Timestamp.ofUnixSeconds? (seconds - 1)).map (f, ·)
      else none
    else (f.put? .second t.clock.second).map (·, t)
  let f ← f.put? .year t.date.year
  let f ← f.put? .ordinal t.date.ordinal
  let f ← f.putHour? t.clock.hour
  f.put? .minute t.clock.minute

/-- The date and time of day that the fields mean, `offset` minutes ahead of UTC. -/
def local? (f : Fields) (offset : Int) : Option Timestamp :=
  match f.date, f.clock with
  | .ok date, .ok clock =>
    match f.get .unixSeconds with
    | some count => if countFits ⟨date, clock⟩ offset count then some ⟨date, clock⟩ else none
    | none => some ⟨date, clock⟩
  | .error .contradictory, _ => none
  | _, .error .contradictory => none
  | _, _ =>
    match f.get .unixSeconds with
    | none => none
    | some count => do
      let filled ← f.fillFromCount? (count + 60 * offset)
      let date ← filled.date.toOption
      let clock ← filled.clock.toOption
      some ⟨date, clock⟩

/-- The timestamp in UTC that the fields mean.  They must give an offset below a day, or a count
of seconds, which is one in UTC. -/
def utc? (f : Fields) : Option Timestamp := do
  let offset ← match f.get .offset, f.get .unixSeconds with
    | some offset, _ => some offset
    | none, some _ => some 0
    | none, none => none
  let t ← f.local? offset
  if -1440 < offset && offset < 1440 then t.earlier? offset else none

end Fields

end FilterQuery.Calendar
