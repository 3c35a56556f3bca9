/-
# FilterQuery.Json.Number -- the value of a number

A number without fraction and exponent is whole if it fits 64 bits.  Every other
number is rounded twice: as many of its first digits as fit 64 bits become a
double, and so does this double times or divided by a power of ten.  A number
beyond the range of doubles denotes nothing.
-/
import FilterQuery.Json.Basic
import FilterQuery.Number.Double

namespace FilterQuery.Json

/-- The number of the digits behind `n`, as far as the whole fits 64 bits, and the digits from the
first that does not. -/
def takeFitting (n : Nat) : List Char → Nat × List Char
  | [] => (n, [])
  | c :: digits =>
    let longer := 10 * n + (c.toNat - '0'.toNat)
    if longer < Number.wordLimit then takeFitting longer digits else (n, c :: digits)

/-- The double nearest to a power of ten. -/
def powerOfTen (exponent : Int) : Float :=
  Number.Double.nearest false (Number.tenTo exponent.toNat) 1

/-- A double below `2 ^ 64` that is not negative, shifted by decimal places, if that is within the
range of doubles.  A shift by more places than a double has is made in two steps. -/
def shifted? (x : Float) (places : Int) : Option Float :=
  if x == 0 || places < -616 then some 0
  else if 308 < places then none
  else if 0 ≤ places then
    let y := x * powerOfTen places
    if Number.Double.isFinite y then some y else none
  else if -308 ≤ places then some (x / powerOfTen (-places))
  else some (x / powerOfTen 308 / powerOfTen (-places - 308))

/-- The magnitude of a number that is not read as whole. -/
def magnitude? (whole fraction : List Char) (exponent : Int) : Option Float :=
  let (n, dropped) := takeFitting 0 whole
  let (n, tail) := takeFitting n fraction
  shifted? (Number.Double.nearest false n 1)
    (exponent + dropped.length - (fraction.length - tail.length))

/-- The value of a number with these digits before and behind the point. -/
def numberValue (negative : Bool) (whole fraction : List Char) (exponent : Option Int) : Json :=
  let n := Nat.ofDigitChars 10 whole 0
  let isWhole := fraction.isEmpty && exponent.isNone
  if isWhole && !negative && n < Number.wordLimit then .integer n
  else if isWhole && negative && n ≠ 0 && n ≤ Number.signedLimit then .integer (-n)
  else match magnitude? whole fraction (exponent.getD 0) with
    | some x => .float (if negative then -x else x)
    | none => .unreadable

end FilterQuery.Json
