/-
# FilterQuery.Number.Shortest -- the fewest decimal digits that read back

All reals between the midpoints to its two neighbours round to a double, and
the midpoints themselves do when its significand is even.  `shortest` is a
decimal of the fewest digits in that interval, and of those the one nearest to
the double, the upper one if two are equally near.

A grid of decimals meets the interval only if one of the two grid points around
the double lies in it, so these are the only candidates (`candidate?`).

Two layouts use the digits: `positional` never writes an exponent, and
`scientific` does from `1e16` on and below `1e-5`.
-/
import FilterQuery.Number.Digits
import FilterQuery.Number.Double

namespace FilterQuery.Number

/-- The decimal `digits * 10 ^ exponent`. -/
structure Decimal where
  digits : Nat
  exponent : Int
  deriving DecidableEq, Repr

/-- The reals that round to a positive double, as numerators over one denominator. -/
structure Interval where
  low : Nat
  middle : Nat
  high : Nat
  denominator : Nat
  closed : Bool

namespace Interval

/-- The interval of `significand * 2 ^ exponent`.  Below a power of two the neighbour is closer,
except next to the smallest exponent. -/
def ofParts (significand : Nat) (exponent : Int) : Interval :=
  let below := if significand = Double.leadingBit && exponent ≠ -1074 then 1 else 2
  let scale := twoTo (exponent - 2).toNat
  ⟨(4 * significand - below) * scale, 4 * significand * scale, (4 * significand + 2) * scale,
    twoTo (2 - exponent).toNat, significand % 2 = 0⟩

/-- The interval in units of `10 ^ exponent`. -/
def inUnits (i : Interval) (exponent : Int) : Interval :=
  let factor := tenTo (-exponent).toNat
  ⟨i.low * factor, i.middle * factor, i.high * factor,
    i.denominator * tenTo exponent.toNat, i.closed⟩

/-- A whole number of units lies in the interval. -/
def contains (i : Interval) (n : Nat) : Bool :=
  let point := n * i.denominator
  if i.closed then i.low ≤ point && point ≤ i.high else i.low < point && point < i.high

/-- The whole number of units in the interval that is nearest to the middle, if one is. -/
def candidate? (i : Interval) : Option Nat :=
  let below := i.middle / i.denominator
  let remainder := i.middle % i.denominator
  let upperNearer := i.denominator ≤ 2 * remainder
  match i.contains below, i.contains (below + 1) with
  | true, true => some (if upperNearer then below + 1 else below)
  | true, false => some below
  | false, true => some (below + 1)
  | false, false => none

/-- The least power of ten above the middle. -/
def leadingExponent (i : Interval) : Int :=
  let guess : Int :=
    Int.ofNat (Nat.toDigits 10 i.middle).length - Int.ofNat (Nat.toDigits 10 i.denominator).length
  if i.middle * tenTo (-guess).toNat < i.denominator * tenTo guess.toNat then guess else guess + 1

/-- The first hit on the grids of `n`, `n + 1`, … digits, `grids` of them. -/
def search (i : Interval) (leading : Int) : Nat → Nat → Decimal
  | 0, _ => ⟨0, 0⟩
  | grids + 1, n =>
    let exponent := leading - Int.ofNat n
    match (i.inUnits exponent).candidate? with
    | some digits => ⟨digits, exponent⟩
    | none => search i leading grids (n + 1)

end Interval

/-- The shortest decimal that reads back as a double that is not negative. -/
def shortest (significand : Nat) (exponent : Int) : Decimal :=
  if significand = 0 then ⟨0, 0⟩
  else
    let interval := Interval.ofParts significand exponent
    interval.search interval.leadingExponent 17 1

/-! ## Layouts -/

/-- Digits without the zeros at their end, and the place of the point: the decimal is
`0.d₁d₂… * 10 ^ point`. -/
def Decimal.spread (d : Decimal) : List Char × Int :=
  let digits := Nat.toDigits 10 d.digits
  let kept := (digits.reverse.dropWhile (· == '0')).reverse
  if kept.isEmpty then (['0'], 1) else (kept, d.exponent + Int.ofNat digits.length)

/-- Digits with a point and no exponent; a fraction of zero is left out. -/
def positionalDigits (d : Decimal) : List Char × List Char :=
  let (digits, point) := d.spread
  if point ≤ 0 then (['0'], List.replicate (-point).toNat '0' ++ digits)
  else
    let whole := digits.take point.toNat
    (whole ++ List.replicate (point.toNat - whole.length) '0', digits.drop point.toNat)

/-- A number as digits and a point, without exponent. -/
def positional (x : Float) : String :=
  match Double.ofFloat? x with
  | none => if x.isNaN then "NaN" else if x < 0 then "-inf" else "inf"
  | some d =>
    let (whole, fraction) := positionalDigits (shortest d.significand d.exponent)
    String.ofList ((if d.negative then ['-'] else []) ++ whole ++
      if fraction.isEmpty then [] else '.' :: fraction)

/-- A finite number with at least one decimal, or with an exponent if its first digit stands at
the sixteenth place before the point or further, or at the sixth behind it or further. -/
def scientific (d : Double) : List Char :=
  let decimal := shortest d.significand d.exponent
  let (digits, point) := decimal.spread
  let sign := if d.negative then ['-'] else []
  if -5 < point && point ≤ 16 then
    let (whole, fraction) := positionalDigits decimal
    sign ++ whole ++ '.' :: if fraction.isEmpty then ['0'] else fraction
  else
    let tail := digits.drop 1
    let power := point - 1
    sign ++ digits.take 1 ++ (if tail.isEmpty then [] else '.' :: tail) ++ 'e' ::
      (if 0 ≤ power then '+' :: printInt power else printInt power)

end FilterQuery.Number
