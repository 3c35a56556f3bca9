/-
# FilterQuery.Value.ByteSize -- sizes such as `512`, `10 MB` and `1GiB`

A size is a number, a unit letter, an `i` and a `B`, of which all but the number
may be missing.  The letters `k`, `m`, `g`, `t`, `p`, `e` stand for the first to
the sixth power of 1000, or of 1024 before an `i`, in either case.

The number has decimals and an exponent if it likes, and blanks and underscores
anywhere.  Its digits are collected in 64 bits: the first digit that does not fit
rounds what is there and is dropped like all that follow it.  The largest number
of 64 bits cannot be rounded up, and the scan breaks off there, whatever comes
behind (`Fault.overflow`).  The digits of the exponent count upwards, and
downwards behind a hyphen, which may also stand between them: `1e2-5` is ten to
the power of 10 * 2 - 5.  A digit with which the exponent does not fit 32 bits is
a fault, and one behind a hyphen is dropped.  The size is rounded to a whole
number, a half upwards, and must fit 64 bits with a sign.
-/
import FilterQuery.Number.Digits

namespace FilterQuery.ByteSize

open FilterQuery.Number

/-- The power of the unit that a letter stands for. -/
def unitPower? (c : Char) : Option Nat :=
  match c.toLower with
  | 'k' => some 1
  | 'm' => some 2
  | 'g' => some 3
  | 't' => some 4
  | 'p' => some 5
  | 'e' => some 6
  | _ => none

/-- A text without its last character, if that is `c` in either case. -/
def stripLast (c : Char) (s : List Char) : Option (List Char) :=
  if s.getLast?.any (·.toLower == c) then some s.dropLast else none

/-- The number in front of the unit, and the factor of the unit. -/
def splitUnit (s : List Char) : List Char × Nat :=
  let s := (stripLast 'b' s).getD s
  let (s, base) := match stripLast 'i' s with
    | some s => (s, 1024)
    | none => (s, 1000)
  match s.getLast?.bind unitPower? with
  | some power => (s.dropLast, Nat.pow base power)
  | none => (s, 1)

/-- Why a text gives no size: it is none, or one that is too large, or its scan breaks off. -/
inductive Fault where
  | unfit
  | overflow
  deriving DecidableEq, Repr

/-- Where in a number the scan is.  In a full part no digit fits any more. -/
inductive Phase where
  | start
  | whole
  | wholeFull
  | fraction
  | fractionFull
  | power
  | negativePower
  deriving DecidableEq, Repr

/-- The digits so far, the power of ten by which dropped and decimal digits shift them, and the
exponent that is written. -/
structure Scan where
  phase : Phase
  mantissa : UInt64
  shift : Int
  power : Int

namespace Scan

/-- Nothing is read. -/
def start : Scan :=
  ⟨.start, 0, 0, 0⟩

/-- One more digit behind a mantissa, if that fits 64 bits. -/
def appended? (mantissa digit : Nat) : Option Nat :=
  if 10 * mantissa + digit < wordLimit then some (10 * mantissa + digit) else none

/-- A whole number that fits 32 bits with its sign. -/
def fitsInt32 (n : Int) : Bool :=
  -2147483648 ≤ n && n < 2147483648

/-- One more digit behind an exponent, to be added or, if it is given with a minus, taken away; both
the tenfold exponent and the result must fit. -/
def exponent? (power digit : Int) : Option Int :=
  if fitsInt32 (10 * power) && fitsInt32 (10 * power + digit) then some (10 * power + digit)
  else none

/-- What is there, rounded by the first digit that does not fit. -/
def rounded (mantissa : UInt64) (digit : Nat) : Except Fault UInt64 :=
  if digit < 5 then .ok mantissa
  else if mantissa.toNat + 1 < wordLimit then .ok (mantissa + 1)
  else .error .overflow

/-- The scan behind one more digit. -/
def digit (s : Scan) (digit : Nat) : Except Fault Scan :=
  let mantissa? := appended? s.mantissa.toNat digit
  match s.phase, mantissa? with
  | .start, some m | .whole, some m => .ok { s with phase := .whole, mantissa := .ofNat m }
  | .start, none | .whole, none =>
    (rounded s.mantissa digit).map fun m =>
      { s with phase := .wholeFull, mantissa := m, shift := s.shift + 1 }
  | .wholeFull, _ => .ok { s with shift := s.shift + 1 }
  | .fraction, some m => .ok { s with mantissa := .ofNat m, shift := s.shift - 1 }
  | .fraction, none =>
    (rounded s.mantissa digit).map fun m => { s with phase := .fractionFull, mantissa := m }
  | .fractionFull, _ => .ok s
  | .power, _ =>
    match exponent? s.power digit with
    | some power => .ok { s with power := power }
    | none => .error .unfit
  | .negativePower, _ => .ok { s with power := (exponent? s.power (-digit)).getD s.power }

/-- The scan behind one more character. -/
def step (s : Scan) (c : Char) : Except Fault Scan :=
  if c.isDigit then s.digit (c.toNat - '0'.toNat)
  else if c == '_' || c == ' ' then .ok s
  else if c == 'e' || c == 'E' then
    match s.phase with
    | .whole | .wholeFull | .fraction | .fractionFull => .ok { s with phase := .power }
    | _ => .error .unfit
  else if c == '.' then
    match s.phase with
    | .whole => .ok { s with phase := .fraction }
    | .wholeFull => .ok { s with phase := .fractionFull }
    | _ => .error .unfit
  else if s.phase = .power && c == '+' then .ok s
  else if s.phase = .power && c == '-' then .ok { s with phase := .negativePower }
  else .error .unfit

/-- The number of bytes, for a unit of `factor` bytes. -/
def total? (s : Scan) (factor : Nat) : Option Nat :=
  let exponent := s.power + s.shift
  let bounded (n : Nat) : Option Nat := if n < wordLimit then some n else none
  if s.phase = .start then none
  else if 0 ≤ exponent then
    if exponent ≤ 19 then do
      let unit ← bounded (factor * tenTo exponent.toNat)
      bounded (s.mantissa.toNat * unit)
    else none
  else if -38 ≤ exponent then
    let divisor := tenTo (-exponent).toNat
    bounded ((s.mantissa.toNat * factor + divisor / 2) / divisor)
  else some 0

/-- The size of a whole scan, if its total fits 64 bits with a sign. -/
def size (s : Scan) (factor : Nat) : Except Fault Int64 :=
  match s.total? factor with
  | some total => if total < signedLimit then .ok (Int64.ofNat total) else .error .unfit
  | none => .error .unfit

end Scan

/-- The number of bytes that a text stands for. -/
def read (s : List Char) : Except Fault Int64 := do
  let (number, factor) := splitUnit s
  let scan ← number.foldlM Scan.step Scan.start
  scan.size factor

end FilterQuery.ByteSize
