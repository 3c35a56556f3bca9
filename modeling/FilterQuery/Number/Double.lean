/-
# FilterQuery.Number.Double -- doubles as integers times powers of two

A finite double is a sign, a significand below `2 ^ 53` and an exponent not
below `-1074`: its value is the significand times two to the exponent.

* `Double.ofFloat?` takes a finite `Float` apart.
* `Double.nearest` is the double closest to a quotient of natural numbers, of
  two equally close ones that with the even significand, and infinity from half
  a step above the largest finite double on.
-/
import FilterQuery.Number.Digits

namespace FilterQuery.Number

/-- The finite double `significand * 2 ^ exponent`, with a sign. -/
structure Double where
  negative : Bool
  significand : Nat
  exponent : Int
  deriving DecidableEq, Repr

namespace Double

/-- The leading bit of a significand of full length. -/
def leadingBit : Nat :=
  4503599627370496

/-- The parts of a finite `Float`; `none` for infinities and for what is not a number. -/
def ofFloat? (x : Float) : Option Double :=
  let bits := x.toBits.toNat
  let field := bits / leadingBit % 2048
  let fraction := bits % leadingBit
  let negative := decide (signedLimit ≤ bits)
  if field = 2047 then none
  else if field = 0 then some ⟨negative, fraction, -1074⟩
  else some ⟨negative, leadingBit + fraction, Int.ofNat field - 1075⟩

/-- The quotient `num / den` rounded to a whole number, a half to the even neighbour. -/
def roundHalfEven (num den : Nat) : Nat :=
  let quotient := num / den
  let twice := 2 * (num % den)
  if twice < den then quotient
  else if den < twice then quotient + 1
  else if quotient % 2 = 0 then quotient else quotient + 1

/-- The quotient `num / den` in units of `2 ^ exponent`, rounded. -/
def inUnits (num den : Nat) (exponent : Int) : Nat :=
  if 0 ≤ exponent then roundHalfEven num (den * twoTo exponent.toNat)
  else roundHalfEven (num * twoTo (-exponent).toNat) den

/-- The bits of the double nearest to `num / den`, which is not negative. -/
def nearestBits (num den : Nat) : Nat :=
  if num = 0 then 0
  else
    let guess : Int := Int.ofNat num.log2 - Int.ofNat den.log2 - 52
    let short : Bool :=
      if 0 ≤ guess then num / (den * twoTo guess.toNat) < leadingBit
      else num * twoTo (-guess).toNat / den < leadingBit
    let exponent := max (-1074) (if short then guess - 1 else guess)
    let field := (exponent + 1074).toNat
    min (field * leadingBit + inUnits num den exponent) (2047 * leadingBit)

/-- The double nearest to `num / den`, with a sign. -/
def nearest (negative : Bool) (num den : Nat) : Float :=
  Float.ofBits (.ofNat ((if negative then signedLimit else 0) + nearestBits num den))

/-- The double nearest to `digits * 10 ^ exponent`, with a sign.  Beyond the range of doubles the
exponent is not written out. -/
def ofDecimal (negative : Bool) (digits : Nat) (exponent : Int) : Float :=
  let magnitude := exponent + (Nat.toDigits 10 digits).length
  if digits = 0 || magnitude < -400 then nearest negative 0 1
  else if 400 < magnitude then nearest negative (tenTo 400) 1
  else if 0 ≤ exponent then nearest negative (digits * tenTo exponent.toNat) 1
  else nearest negative digits (tenTo (-exponent).toNat)

/-- A `Float` that is neither infinite nor other than a number. -/
def isFinite (x : Float) : Bool :=
  (ofFloat? x).isSome

end Double

end FilterQuery.Number
