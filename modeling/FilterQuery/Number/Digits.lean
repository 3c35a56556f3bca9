/-
# FilterQuery.Number.Digits -- whole numbers as decimal digits

`printInt` writes a whole number with the fewest digits and a hyphen if it is
negative.  `readInt?` takes one optional sign and then nothing but ASCII digits,
at least one of them, leading zeros included; `readInt64?` also asks that the
number fits 64 bits.  `readNat?_toDigits`, `readInt?_printInt` and
`readInt64?_printInt`: what is written is read back.
-/

namespace FilterQuery.Number

/-- The number that a text of digits denotes. -/
def readNat? (s : List Char) : Option Nat :=
  if !s.isEmpty && s.all Char.isDigit then some (Nat.ofDigitChars 10 s 0) else none

/-- The number that a text of digits behind at most one sign denotes. -/
def readInt? : List Char → Option Int
  | [] => none
  | c :: r =>
    if c == '-' then (readNat? r).map fun n => -(n : Int)
    else if c == '+' then (readNat? r).map fun n => (n : Int)
    else (readNat? (c :: r)).map fun n => (n : Int)

/-- The numbers below this one fit 64 bits. -/
def wordLimit : Nat :=
  18446744073709551616

/-- The numbers below this one fit 64 bits with a sign. -/
def signedLimit : Nat :=
  9223372036854775808

/-- The power of ten with this exponent. -/
def tenTo (exponent : Nat) : Nat :=
  Nat.pow 10 exponent

/-- The power of two with this exponent. -/
def twoTo (exponent : Nat) : Nat :=
  Nat.pow 2 exponent

/-- A whole number that fits 64 bits with its sign. -/
def fitsInt64 (n : Int) : Bool :=
  -(signedLimit : Int) ≤ n && n < signedLimit

/-- The 64-bit number that a text of digits behind at most one sign denotes. -/
def readInt64? (s : List Char) : Option Int64 :=
  match readInt? s with
  | some n => if fitsInt64 n then some (Int64.ofInt n) else none
  | none => none

/-- The canonical text of a whole number. -/
def printInt : Int → List Char
  | .ofNat n => Nat.toDigits 10 n
  | .negSucc n => '-' :: Nat.toDigits 10 (n + 1)

theorem readNat?_toDigits (n : Nat) : readNat? (Nat.toDigits 10 n) = some n := by
  have nonempty : Nat.toDigits 10 n ≠ [] := Nat.toDigits_ne_nil
  have digits : ∀ c ∈ Nat.toDigits 10 n, c.isDigit = true :=
    fun c member => Nat.isDigit_of_mem_toDigits (by decide) (by decide) member
  rw [readNat?, if_pos, Nat.ofDigitChars_toDigits (by decide) (by decide)]
  simpa [nonempty] using digits

theorem readInt?_printInt (n : Int) : readInt? (printInt n) = some n := by
  cases n with
  | ofNat n =>
    have digits := readNat?_toDigits n
    cases h : Nat.toDigits 10 n with
    | nil => exact absurd h Nat.toDigits_ne_nil
    | cons c r =>
      have digit : c.isDigit = true :=
        Nat.isDigit_of_mem_toDigits (n := n) (by decide) (by decide) (h ▸ List.mem_cons_self)
      have first : c ≠ '-' := by rintro rfl; exact absurd digit (by decide)
      have second : c ≠ '+' := by rintro rfl; exact absurd digit (by decide)
      rw [h] at digits
      simp [printInt, h, readInt?, first, second, digits]
  | negSucc n =>
    simp [printInt, readInt?, readNat?_toDigits, Int.negSucc_eq]

theorem fitsInt64_toInt (n : Int64) : fitsInt64 n.toInt = true := by
  have low := n.le_toInt
  have high := n.toInt_lt
  rw [fitsInt64, signedLimit, Bool.and_eq_true, decide_eq_true_iff, decide_eq_true_iff]
  omega

theorem readInt64?_printInt (n : Int64) : readInt64? (printInt n.toInt) = some n := by
  simp only [readInt64?, readInt?_printInt, fitsInt64_toInt, if_true, Int64.ofInt_toInt]

end FilterQuery.Number
