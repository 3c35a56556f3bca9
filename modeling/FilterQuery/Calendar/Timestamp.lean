/-
# FilterQuery.Calendar.Timestamp -- date, time of day and their RFC 3339 text

A `Timestamp` is a date and a time of day; a second numbered 60 is a leap
second.  `earlier?` takes an offset from UTC away, and `print` and `read?` are
the RFC 3339 text of a timestamp in UTC:

    year '-' month '-' day  ('T' | 't' | ' ')  hour ':' minute ':' second
    [ '.' digits ]  ('Z' | 'z' | sign hour ':' minute)

Reading takes any number of fraction digits and drops those behind the ninth;
writing uses the least of none, three, six and nine that is exact.  Years that
do not have four digits are written with a sign and at least four digits, a
form that is not read.
-/
import FilterQuery.Calendar.Date
import FilterQuery.Number.Digits

namespace FilterQuery.Calendar

/-- A time of day. -/
structure Clock where
  hour : Nat
  minute : Nat
  second : Nat
  nano : Nat
  hour_lt : hour < 24
  minute_lt : minute < 60
  second_le : second ≤ 60
  nano_lt : nano < 1000000000
  deriving DecidableEq, Repr

namespace Clock

/-- The time of day with these parts, if there is one. -/
def of? (hour minute second nano : Nat) : Option Clock :=
  if h : hour < 24 ∧ minute < 60 ∧ second ≤ 60 ∧ nano < 1000000000 then
    some ⟨hour, minute, second, nano, h.1, h.2.1, h.2.2.1, h.2.2.2⟩
  else none

/-- The beginning of the day. -/
def midnight : Clock :=
  ⟨0, 0, 0, 0, by decide, by decide, by decide, by decide⟩

/-- The minute of the day. -/
def minutes (c : Clock) : Nat :=
  60 * c.hour + c.minute

/-- The second of the day; a leap second counts as the second before it. -/
def seconds (c : Clock) : Nat :=
  60 * c.minutes + min 59 c.second

end Clock

/-- A date and a time of day. -/
structure Timestamp where
  date : Date
  clock : Clock
  deriving DecidableEq, Repr

namespace Timestamp

/-- The seconds since the beginning of 1970. -/
def unixSeconds (t : Timestamp) : Int :=
  86400 * t.date.dayNumber + t.clock.seconds

/-- The timestamp of a number of seconds since the beginning of 1970. -/
def ofUnixSeconds? (n : Int) : Option Timestamp :=
  let second := (n % 86400).toNat
  match Date.ofDayNumber? (n / 86400),
      Clock.of? (second / 3600) (second / 60 % 60) (second % 60) 0 with
  | some date, some clock => some ⟨date, clock⟩
  | _, _ => none

/-- The timestamp `offset` minutes earlier, for offsets below a day. -/
def earlier? (t : Timestamp) (offset : Int) : Option Timestamp :=
  let total := Int.ofNat t.clock.minutes - offset
  let minute := (total % 1440).toNat
  let clock : Clock :=
    { t.clock with
      hour := minute / 60
      minute := minute % 60
      hour_lt := by omega
      minute_lt := by omega }
  let date? :=
    if total < 0 then t.date.previous?
    else if 1440 ≤ total then t.date.next?
    else some t.date
  date?.map fun date => ⟨date, clock⟩

/-! ## Writing -/

/-- A number with at least `width` digits. -/
def padded (width n : Nat) : List Char :=
  let digits := Nat.toDigits 10 n
  List.replicate (width - digits.length) '0' ++ digits

/-- A year: four digits, or a sign and at least four digits. -/
def printYear (year : Int) : List Char :=
  if 0 ≤ year && year ≤ 9999 then padded 4 year.toNat
  else (if year < 0 then '-' else '+') :: padded 4 year.natAbs

/-- The fraction of a second: nothing, or a point and three, six or nine digits. -/
def printFraction (nano : Nat) : List Char :=
  if nano = 0 then []
  else if nano % 1000000 = 0 then '.' :: padded 3 (nano / 1000000)
  else if nano % 1000 = 0 then '.' :: padded 6 (nano / 1000)
  else '.' :: padded 9 nano

/-- The RFC 3339 text of a timestamp in UTC. -/
def printChars (t : Timestamp) : List Char :=
  printYear t.date.year ++ '-' :: padded 2 t.date.month ++ '-' :: padded 2 t.date.day ++
    'T' :: padded 2 t.clock.hour ++ ':' :: padded 2 t.clock.minute ++
    ':' :: padded 2 t.clock.second ++ printFraction t.clock.nano ++ ['Z']

/-- The RFC 3339 text of a timestamp in UTC. -/
def print (t : Timestamp) : String :=
  String.ofList t.printChars

/-! ## Reading -/

/-- The number of the first `least` to `most` digits of `s`, as many as there are. -/
def scanNumber (least most : Nat) (s : List Char) : Option (Nat × List Char) :=
  let digits := (s.take most).takeWhile Char.isDigit
  if digits.length < least then none
  else some (Nat.ofDigitChars 10 digits 0, s.drop digits.length)

/-- The nanoseconds that a fraction of exactly `width` digits stands for. -/
def scanFixedFraction (width : Nat) (s : List Char) : Option (Nat × List Char) :=
  (scanNumber width width s).map fun (n, rest) => (n * Number.tenTo (9 - width), rest)

/-- The nanoseconds that a fraction stands for; digits behind the ninth are dropped. -/
def scanFraction (s : List Char) : Option (Nat × List Char) :=
  (scanNumber 1 9 s).map fun (n, rest) =>
    (n * Number.tenTo (9 - (s.length - rest.length)), rest.dropWhile Char.isDigit)

/-- The rest behind an expected character. -/
def expect (c : Char) : List Char → Option (List Char)
  | d :: rest => if d == c then some rest else none
  | [] => none

/-- The rest behind the letter or the blank that separates date and time. -/
def expectSeparator : List Char → Option (List Char)
  | d :: rest => if d == 'T' || d == 't' || d == ' ' then some rest else none
  | [] => none

/-- A sign, true for minus: a plus, a hyphen or U+2212. -/
def scanSign : List Char → Option (Bool × List Char)
  | d :: rest =>
    if d == '+' then some (false, rest)
    else if d == '-' || d == '\u2212' then some (true, rest)
    else none
  | [] => none

/-- An offset from UTC in minutes, or the letter that stands for none. -/
def scanOffset : List Char → Option (Int × List Char)
  | [] => none
  | c :: r =>
    if c == 'Z' || c == 'z' then some (0, r)
    else do
      let (negative, s) ← scanSign (c :: r)
      let (hours, s) ← scanNumber 2 2 s
      let s ← expect ':' s
      let (minutes, s) ← scanNumber 2 2 s
      if minutes < 60 && hours < 24 then
        let total := Int.ofNat (60 * hours + minutes)
        some (if negative then -total else total, s)
      else none

/-- The timestamp in UTC of an RFC 3339 text. -/
def read? (s : List Char) : Option Timestamp := do
  let (year, s) ← scanNumber 4 4 s
  let s ← expect '-' s
  let (month, s) ← scanNumber 2 2 s
  let s ← expect '-' s
  let (day, s) ← scanNumber 2 2 s
  let s ← expectSeparator s
  let (hour, s) ← scanNumber 2 2 s
  let s ← expect ':' s
  let (minute, s) ← scanNumber 2 2 s
  let s ← expect ':' s
  let (second, s) ← scanNumber 2 2 s
  let (nano, s) ← match s with
    | '.' :: r => scanFraction r
    | _ => some (0, s)
  let (offset, s) ← scanOffset s
  let date ← Date.ofYmd? year month day
  let clock ← Clock.of? hour minute second nano
  if s.isEmpty then earlier? ⟨date, clock⟩ offset else none

end Timestamp

end FilterQuery.Calendar
