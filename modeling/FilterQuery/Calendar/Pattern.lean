/-
# FilterQuery.Calendar.Pattern -- date patterns and the texts they match

A pattern is a text in which `%` and a letter stand for a part of a date, blanks
for any number of blanks, and everything else for itself.  `itemsOf` takes a
pattern apart; what is no part of a date becomes `Item.invalid`, which matches
nothing.  `scan` reads a text item by item and collects the `Fields`.

Numbers may have blanks before them.  A number of limited width takes as many
digits as it may; a year behind a sign takes all there are.

`readOffset?`, `readLocal?` and `readDay?` are the three meanings of a text: a
timestamp with its offset from UTC, a date and time of day without one, and a
day alone.  `readRelaxed?` is the lenient reading of RFC 3339 texts.
-/
import FilterQuery.Calendar.Fields
import FilterQuery.Text.Blank
import FilterQuery.Text.Front

namespace FilterQuery.Calendar

open FilterQuery.Text

/-- A part of a date that is written as a number. -/
inductive Numeral where
  | year
  | century
  | yearOfCentury
  | isoYear
  | isoYearOfCentury
  | quarter
  | month
  | day
  | weekFromSunday
  | weekFromMonday
  | isoWeek
  | weekdayFromZero
  | weekdayFromOne
  | ordinal
  | hour
  | hour12
  | minute
  | second
  | nano
  | unixSeconds
  deriving DecidableEq, Repr

/-- One element of a pattern. -/
inductive Item where
  | literal (text : List Char)
  | blanks
  | numeral (what : Numeral)
  | monthName (long : Bool)
  | weekdayName (long : Bool)
  | halfOfDay
  | fraction
  | fixedFraction (point : Bool) (width : Nat)
  | offset (lenient : Bool)
  | zoneName
  | relaxedTimestamp
  | invalid
  deriving DecidableEq, Repr

namespace Numeral

/-- The largest number of digits; `none` for any number. -/
def width : Numeral → Option Nat
  | year | isoYear => some 4
  | ordinal => some 3
  | quarter | weekdayFromZero | weekdayFromOne => some 1
  | nano => some 9
  | unixSeconds => none
  | _ => some 2

/-- A sign may stand before the digits. -/
def isSigned : Numeral → Bool
  | year | isoYear => true
  | _ => false

/-- Notes the number that was read. -/
def put? (f : Fields) (n : Int) : Numeral → Option Fields
  | year => f.putIn? .year (-2147483648) 2147483647 n
  | century => f.put? .century n
  | yearOfCentury => f.put? .yearOfCentury n
  | isoYear => f.putIn? .isoYear (-2147483648) 2147483647 n
  | isoYearOfCentury => f.put? .isoYearOfCentury n
  | quarter => f.putIn? .quarter 1 4 n
  | month => f.putIn? .month 1 12 n
  | day => f.putIn? .day 1 31 n
  | weekFromSunday => f.putIn? .weekFromSunday 0 53 n
  | weekFromMonday => f.putIn? .weekFromMonday 0 53 n
  | isoWeek => f.putIn? .isoWeek 1 53 n
  | weekdayFromZero => if n ≤ 6 then f.put? .weekday ((n + 6) % 7) else none
  | weekdayFromOne => if 1 ≤ n && n ≤ 7 then f.put? .weekday (n - 1) else none
  | ordinal => f.putIn? .ordinal 1 366 n
  | hour => f.putHour? n
  | hour12 => if 1 ≤ n && n ≤ 12 then f.put? .hourOfHalf (n % 12) else none
  | minute => f.putIn? .minute 0 59 n
  | second => f.putIn? .second 0 60 n
  | nano => f.put? .nano n
  | unixSeconds => f.putIn? .unixSeconds 0 9223372036854775807 n

end Numeral

/-! ## Patterns -/

namespace Item

/-- Month, day and year of the century between slashes. -/
def slashDate : List Item :=
  [numeral .month, literal ['/'], numeral .day, literal ['/'], numeral .yearOfCentury]

/-- Hour, minute and second between colons. -/
def clockTime (first : Numeral) : List Item :=
  [numeral first, literal [':'], numeral .minute, literal [':'], numeral .second]

/-- What a letter behind `%` stands for. -/
def ofLetter : Char → List Item
  | 'A' => [weekdayName true]
  | 'B' => [monthName true]
  | 'C' => [numeral .century]
  | 'D' => slashDate
  | 'F' => [numeral .year, literal ['-'], numeral .month, literal ['-'], numeral .day]
  | 'G' => [numeral .isoYear]
  | 'H' => [numeral .hour]
  | 'I' => [numeral .hour12]
  | 'M' => [numeral .minute]
  | 'P' => [halfOfDay]
  | 'R' => [numeral .hour, literal [':'], numeral .minute]
  | 'S' => [numeral .second]
  | 'T' => clockTime .hour
  | 'U' => [numeral .weekFromSunday]
  | 'V' => [numeral .isoWeek]
  | 'W' => [numeral .weekFromMonday]
  | 'X' => clockTime .hour
  | 'Y' => [numeral .year]
  | 'Z' => [zoneName]
  | 'a' => [weekdayName false]
  | 'b' => [monthName false]
  | 'c' =>
    [weekdayName false, blanks, monthName false, blanks, numeral .day, blanks] ++
      clockTime .hour ++ [blanks, numeral .year]
  | 'd' => [numeral .day]
  | 'e' => [numeral .day]
  | 'f' => [numeral .nano]
  | 'g' => [numeral .isoYearOfCentury]
  | 'h' => [monthName false]
  | 'j' => [numeral .ordinal]
  | 'k' => [numeral .hour]
  | 'l' => [numeral .hour12]
  | 'm' => [numeral .month]
  | 'n' => [blanks]
  | 'p' => [halfOfDay]
  | 'q' => [numeral .quarter]
  | 'r' => clockTime .hour12 ++ [blanks, halfOfDay]
  | 's' => [numeral .unixSeconds]
  | 't' => [blanks]
  | 'u' => [numeral .weekdayFromOne]
  | 'v' => [numeral .day, literal ['-'], monthName false, literal ['-'], numeral .year]
  | 'w' => [numeral .weekdayFromZero]
  | 'x' => slashDate
  | 'y' => [numeral .yearOfCentury]
  | 'z' => [offset false]
  | '+' => [relaxedTimestamp]
  | '%' => [literal ['%']]
  | _ => [invalid]

/-- Padding can be asked for where a single number stands. -/
def padded : List Item → List Item
  | [numeral what] => [numeral what]
  | _ => [invalid]

/-- The elements for what stands behind `%`, and what follows. -/
def ofDirective : List Char → List Item × List Char
  | [] => ([invalid], [])
  | '#' :: 'z' :: r => ([offset true], r)
  | '#' :: _ => ([invalid], [])
  | ':' :: ':' :: ':' :: 'z' :: r => ([offset false], r)
  | ':' :: ':' :: 'z' :: r => ([offset false], r)
  | ':' :: 'z' :: r => ([offset false], r)
  | '.' :: '3' :: 'f' :: r => ([fixedFraction true 3], r)
  | '.' :: '6' :: 'f' :: r => ([fixedFraction true 6], r)
  | '.' :: '9' :: 'f' :: r => ([fixedFraction true 9], r)
  | '.' :: 'f' :: r => ([fraction], r)
  | '3' :: 'f' :: r => ([fixedFraction false 3], r)
  | '6' :: 'f' :: r => ([fixedFraction false 6], r)
  | '9' :: 'f' :: r => ([fixedFraction false 9], r)
  | c :: r =>
    if c == '-' || c == '_' || c == '0' then
      match r with
      | [] => ([invalid], [])
      | d :: r => (padded (ofLetter d), r)
    else (ofLetter c, r)

theorem ofDirective_length (s : List Char) : (ofDirective s).2.length ≤ s.length := by
  unfold ofDirective
  split <;> (try split) <;> (try split) <;> simp only [List.length_cons, List.length_nil] <;> omega

/-- A character of a pattern that stands for itself. -/
def isLiteral (c : Char) : Bool :=
  c != '%' && !isBlank c

/-- The elements of a pattern. -/
def itemsOf (s : List Char) : List Item :=
  match s with
  | [] => []
  | c :: r =>
    if c == '%' then (ofDirective r).1 ++ itemsOf (ofDirective r).2
    else if isBlank c then blanks :: itemsOf (dropBlank r)
    else literal (c :: r.takeWhile isLiteral) :: itemsOf (r.dropWhile isLiteral)
termination_by s.length
decreasing_by
  · have := ofDirective_length r
    simp only [List.length_cons]
    omega
  · have := dropBlank_length_le r
    simp only [List.length_cons]
    omega
  · have := (List.dropWhile_suffix (l := r) isLiteral).length_le
    simp only [List.length_cons]
    omega

end Item

/-! ## Texts -/

/-- The English names of the months; the first three letters of each are its short name. -/
def monthNames : List String :=
  ["january", "february", "march", "april", "may", "june", "july", "august", "september",
    "october", "november", "december"]

/-- The English names of the weekdays, from Monday; likewise. -/
def weekdayNames : List String :=
  ["monday", "tuesday", "wednesday", "thursday", "friday", "saturday", "sunday"]

/-- The rest of `s` behind `word`, which is in lower case, in whatever case it is written. -/
def dropWord? : (word : List Char) → (s : List Char) → Option (List Char)
  | [], s => some s
  | _ :: _, [] => none
  | w :: word, c :: s => if c.toLower == w then dropWord? word s else none

/-- The place of the name at the front of `s` among `names`, and what follows it.  Three letters
are enough; the others are taken too if they may be (`long`) and are there. -/
def scanName (names : List String) (long : Bool) (s : List Char) : Option (Nat × List Char) :=
  names.zipIdx.findSome? fun (name, place) =>
    (dropWord? (name.toList.take 3) s).map fun rest =>
      (place, if long then (dropWord? (name.toList.drop 3) rest).getD rest else rest)

/-- The two letters that tell the halves of the day apart. -/
def scanHalf (s : List Char) : Option (Nat × List Char) :=
  match dropWord? ['a', 'm'] s, dropWord? ['p', 'm'] s with
  | some rest, _ => some (0, rest)
  | none, some rest => some (1, rest)
  | none, none => none

/-- One to `most` digits. -/
def scanDigits (most : Nat) (s : List Char) : Option (Int × List Char) :=
  (Timestamp.scanNumber 1 most s).map fun (n, rest) => (Int.ofNat n, rest)

/-- A number with the digits of its width, or behind a sign with any number of digits. -/
def scanNumeral (what : Numeral) (s : List Char) : Option (Int × List Char) :=
  match what.isSigned, dropBlank s with
  | true, '-' :: r => (scanDigits r.length r).map fun (n, rest) => (-n, rest)
  | true, '+' :: r => scanDigits r.length r
  | _, s => scanDigits (what.width.getD s.length) s

/-- An offset in minutes: a sign, two digits, any colons and blanks, and two more digits.  A
lenient one may be the letter that stands for UTC, or end behind the hours. -/
def scanOffset (zulu lenient : Bool) (s : List Char) : Option (Int × List Char) :=
  match zulu, s.head? with
  | true, some 'Z' => some (0, s.drop 1)
  | true, some 'z' => some (0, s.drop 1)
  | _, _ => do
    let (negative, s) ← Timestamp.scanSign s
    let (hours, s) ← Timestamp.scanNumber 2 2 s
    let s := s.dropWhile fun c => c == ':' || isBlank c
    let (minutes, s) ←
      if lenient && s.isEmpty then some (0, [])
      else Timestamp.scanNumber 2 2 s
    if minutes < 60 then
      let total := Int.ofNat (60 * hours + minutes)
      some (if negative then -total else total, s)
    else none

/-- The items of a date in the lenient reading of RFC 3339. -/
def relaxedDate : List Item :=
  [.numeral .year, .blanks, .literal ['-'], .numeral .month, .blanks, .literal ['-'], .numeral .day]

/-- The items of a time of day in that reading. -/
def relaxedTime : List Item :=
  [.numeral .hour, .blanks, .literal [':'], .numeral .minute, .blanks, .literal [':'],
    .numeral .second, .fraction, .blanks]

/-- One element other than a whole timestamp. -/
def scanItem (f : Fields) (s : List Char) : Item → Option (Fields × List Char)
  | .literal text => (after? text s).map (f, ·)
  | .blanks => some (f, dropBlank s)
  | .numeral what => do
    let (n, rest) ← scanNumeral what s
    (what.put? f n).map (·, rest)
  | .monthName long => do
    let (n, rest) ← scanName monthNames long s
    (f.put? .month (n + 1)).map (·, rest)
  | .weekdayName long => do
    let (n, rest) ← scanName weekdayNames long s
    (f.put? .weekday n).map (·, rest)
  | .halfOfDay => do
    let (n, rest) ← scanHalf s
    (f.put? .halfOfDay n).map (·, rest)
  | .fraction =>
    match s with
    | '.' :: r => do
      let (n, rest) ← Timestamp.scanFraction r
      (f.put? .nano n).map (·, rest)
    | _ => some (f, s)
  | .fixedFraction point width =>
    match point, s with
    | true, '.' :: r => do
      let (n, rest) ← Timestamp.scanFixedFraction width r
      (f.put? .nano n).map (·, rest)
    | true, _ => some (f, s)
    | false, _ => do
      let (n, rest) ← Timestamp.scanFixedFraction width s
      (f.put? .nano n).map (·, rest)
  | .offset lenient => do
    let (n, rest) ← scanOffset lenient lenient (dropBlank s)
    (f.put? .offset n).map (·, rest)
  | .zoneName => some (f, s.dropWhile (!isBlank ·))
  | .relaxedTimestamp => none
  | .invalid => none

/-- Several elements other than whole timestamps. -/
def scanItems (f : Fields) (s : List Char) : List Item → Option (Fields × List Char)
  | [] => some (f, s)
  | item :: items => do
    let (f, rest) ← scanItem f s item
    scanItems f rest items

/-- A whole timestamp in the lenient reading of RFC 3339: blanks may stand before numbers, hyphens
and colons and before the offset, which may also be written with the letters `UTC`. -/
def scanRelaxed (f : Fields) (s : List Char) : Option (Fields × List Char) := do
  let (f, s) ← scanItems f s relaxedDate
  let s ← Timestamp.expectSeparator s
  let (f, s) ← scanItems f s relaxedTime
  let (n, rest) ←
    match dropWord? ['u', 't', 'c'] s with
    | some rest => some (0, rest)
    | none => scanOffset true false s
  (f.put? .offset n).map (·, rest)

/-- The fields that a whole text gives by the elements of a pattern. -/
def scan (f : Fields) (s : List Char) : List Item → Option Fields
  | [] => if s.isEmpty then some f else none
  | item :: items => do
    let (f, rest) ← if item = .relaxedTimestamp then scanRelaxed f s else scanItem f s item
    scan f rest items

/-! ## Meanings -/

/-- The timestamp in UTC of a text that gives its offset. -/
def readOffset? (items : List Item) (s : List Char) : Option Timestamp := do
  (← scan .empty s items).utc?

/-- The date and time of day of a text, whatever its offset. -/
def readLocal? (items : List Item) (s : List Char) : Option Timestamp := do
  (← scan .empty s items).local? 0

/-- The day of a text, at midnight, whatever its time of day. -/
def readDay? (items : List Item) (s : List Char) : Option Timestamp := do
  let day ← (← scan .empty s items).date.toOption
  some ⟨day, .midnight⟩

/-- The timestamp in UTC of a text by a pattern: the first of the three meanings that it has. -/
def readBy? (pattern : String) (s : List Char) : Option Timestamp :=
  let items := Item.itemsOf pattern.toList
  readOffset? items s <|> readLocal? items s <|> readDay? items s

/-- The timestamp in UTC of a lenient RFC 3339 text; blanks may follow it. -/
def readRelaxed? (s : List Char) : Option Timestamp := do
  let (f, rest) ← scanRelaxed .empty s
  if (dropBlank rest).isEmpty then f.utc? else none

end FilterQuery.Calendar
