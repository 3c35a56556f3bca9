/-
# FilterQuery.Value.Size -- whole sizes, and what fields make of them

    size    =  digits unit
    unit    =  [ letter ] [ 'i' ] [ 'b' ]
    letter  =  'k' | 'm' | 'g' | 't' | 'p' | 'e'

The characters of a unit are written in either case, and there may be any number of digits.
`SizeText` is the grammar of these texts, without decimals, exponents and blanks: each has an
amount and a factor, and the size is their product.

`Value.ReadsSize` says that a size is exact or refused.  There is a third end: where the first digit
that does not fit would round the largest 64-bit number up, the scan breaks off, and it does so
before the unit counts for anything (`RoundsOver`).
-/
import FilterQuery.Value.Raw
import Mathlib.Algebra.Group.Nat.Defs
import Mathlib.Data.Nat.Log

namespace FilterQuery

namespace ByteSize

/-- The letters of units, and the powers of 1000 or 1024 that they stand for. -/
def unitLetters : List (Char × Nat) :=
  [('k', 1), ('K', 1), ('m', 2), ('M', 2), ('g', 3), ('G', 3),
   ('t', 4), ('T', 4), ('p', 5), ('P', 5), ('e', 6), ('E', 6)]

/-- Nothing, or one of two characters. -/
inductive Perhaps (lower upper : Char) : List Char → Prop where
  | absent : Perhaps lower upper []
  | lower : Perhaps lower upper [lower]
  | upper : Perhaps lower upper [upper]

/-- A unit and its factor. Without a letter there is nothing that an `i` could change. -/
inductive UnitText : List Char → Nat → Prop where
  | bytes {mark byte : List Char} :
      Perhaps 'i' 'I' mark → Perhaps 'b' 'B' byte → UnitText (mark ++ byte) 1
  | decimal {letter : Char} {power : Nat} {byte : List Char} :
      (letter, power) ∈ unitLetters → Perhaps 'b' 'B' byte →
      UnitText (letter :: byte) (1000 ^ power)
  | binary {letter mark : Char} {power : Nat} {byte : List Char} :
      (letter, power) ∈ unitLetters → mark = 'i' ∨ mark = 'I' → Perhaps 'b' 'B' byte →
      UnitText (letter :: mark :: byte) (1024 ^ power)

/-- Digits, the number that they denote, and the factor of the unit behind them. -/
inductive SizeText : List Char → Nat → Nat → Prop where
  | mk {digits unit : List Char} {factor : Nat} :
      digits ≠ [] → (∀ c ∈ digits, c.isDigit = true) → UnitText unit factor →
      SizeText (digits ++ unit) (Nat.ofDigitChars 10 digits 0) factor

/-- Without some digits at its end, `amount` is the largest number of 64 bits with a digit behind it
that rounds it up. -/
def RoundsOver (amount : Nat) : Prop :=
  ∃ behind, 10 * Number.wordLimit - 5 ≤ amount / 10 ^ behind ∧
    amount / 10 ^ behind < 10 * Number.wordLimit

instance (amount : Nat) : Decidable (RoundsOver amount) :=
  decidable_of_iff (∃ behind < Nat.log 10 amount + 1,
      10 * Number.wordLimit - 5 ≤ amount / 10 ^ behind ∧
        amount / 10 ^ behind < 10 * Number.wordLimit) <| by
    refine exists_congr fun behind => and_iff_right_of_imp fun ⟨large, _⟩ => ?_
    have some : 0 < amount / 10 ^ behind := lt_of_lt_of_le (by decide) large
    have shorter : 10 ^ behind ≤ amount := (Nat.div_pos_iff.mp some).2
    exact Nat.lt_succ_of_le (Nat.le_log_of_pow_le (by decide) shorter)

end ByteSize

namespace Value

/-- A text is read as a size if that fits 64 bits with a sign, and is refused if it does not. -/
structure ReadsSize (settings : Settings) (field : Field) (op : Comparator) (raw : String)
    (size : Nat) : Prop where
  exact : size < Number.signedLimit →
    ∃ n : Int64, n.toInt = size ∧ ofRaw settings field op raw = .ok (.integer n)
  refused : Number.signedLimit ≤ size →
    ofRaw settings field op raw = .error (.unfitValue field.path raw .size)
  /-- Digits alone are read as fields with whole numbers read them. -/
  whole : (∀ c ∈ raw.toList, c.isDigit = true) →
    ∀ other : Field, other.kind = .number .integer → ∀ v,
      ofRaw settings field op raw = .ok v ↔ ofRaw settings other op raw = .ok v

end Value

end FilterQuery
