/-
# FilterQuery.Number.Reading -- texts of doubles

    number  =  [ sign ] ( 'inf' | 'infinity' | 'nan' | decimal )
    decimal  =  digits [ '.' [ digits ] ] [ exponent ]  |  '.' digits [ exponent ]
    exponent  =  ( 'e' | 'E' ) [ sign ] digits

The words are read in any case.  A decimal is the double nearest to it.
-/
import FilterQuery.Number.Double

namespace FilterQuery.Number

/-- A text without its sign, and whether that was a hyphen. -/
def dropSign : List Char → Bool × List Char
  | '-' :: r => (true, r)
  | '+' :: r => (false, r)
  | s => (false, s)

/-- The exponent at the end of a decimal; none is zero. -/
def readExponent? : List Char → Option Int
  | [] => some 0
  | c :: r =>
    if c == 'e' || c == 'E' then
      let (negative, digits) := dropSign r
      if !digits.isEmpty && digits.all Char.isDigit then
        let n := Int.ofNat (Nat.ofDigitChars 10 digits 0)
        some (if negative then -n else n)
      else none
    else none

/-- A decimal without sign, as a double with the sign that it had. -/
def readDecimal? (negative : Bool) (s : List Char) : Option Float := do
  let whole := s.takeWhile Char.isDigit
  let rest := s.dropWhile Char.isDigit
  let (fraction, rest) := match rest with
    | '.' :: r => (r.takeWhile Char.isDigit, r.dropWhile Char.isDigit)
    | _ => ([], rest)
  let digits := whole ++ fraction
  let exponent ← readExponent? rest
  if digits.isEmpty then none
  else some (Double.ofDecimal negative (Nat.ofDigitChars 10 digits 0)
    (exponent - Int.ofNat fraction.length))

/-- The double that a text denotes; infinities and what is not a number have names. -/
def readFloat? (s : List Char) : Option Float :=
  let (negative, body) := dropSign s
  let word := String.ofList (body.map Char.toLower)
  if word == "inf" || word == "infinity" then
    some (if negative then -(1.0 / 0.0) else 1.0 / 0.0)
  else if word == "nan" then some (0.0 / 0.0)
  else readDecimal? negative body

end FilterQuery.Number
