/-
# FilterQuery.Proofs.Value.Integers -- one text of a whole number for all number formats

Fields with whole numbers and with decimals read digits by one reader and fields with sizes by
another.  The text that a whole number is printed as is read by both: it is digits alone, which are
a size without a unit and are never too many for the scan (`read_toDigits`), or it has a hyphen in
front, and no size begins with one (`read_minus`).

So what a format makes of a printed number depends on its sign alone (`ofRaw_of_print`), and a
number that was read from any other text, with a sign, leading zeros or a unit, is read again from
the text that it is printed as.
-/
import FilterQuery.Proofs.Value.Sizes

namespace FilterQuery

open Number

/-! ## Printed sizes -/

namespace ByteSize

theorem sizeText_toDigits (n : Nat) : SizeText (Nat.toDigits 10 n) n 1 := by
  have digits : ∀ c ∈ Nat.toDigits 10 n, c.isDigit = true :=
    fun _ member => Nat.isDigit_of_mem_toDigits (by decide) (by decide) member
  have value : Nat.ofDigitChars 10 (Nat.toDigits 10 n) 0 = n :=
    Nat.ofDigitChars_toDigits (by decide) (by decide)
  have text : SizeText (Nat.toDigits 10 n ++ ([] ++ [])) _ 1 :=
    .mk Nat.toDigits_ne_nil digits (.bytes .absent .absent)
  rwa [List.append_nil, List.append_nil, value] at text

theorem read_toDigits {n : Nat} (small : n < signedLimit) :
    read (Nat.toDigits 10 n) = .ok (Int64.ofNat n) := by
  have kept : ¬ RoundsOver n := not_roundsOver_of_lt (lt_trans small (by decide))
  rw [read_of_sizeText (sizeText_toDigits n), if_neg kept, Nat.mul_one, if_pos small]

/-- The last digit ends the unit, so the hyphen is what the scan begins with. -/
theorem read_minus (n : Nat) : read ('-' :: Nat.toDigits 10 n) = .error .unfit := by
  obtain ⟨front, d, shape⟩ : ∃ front d, Nat.toDigits 10 n = front ++ [d] :=
    ⟨_, _, (List.dropLast_concat_getLast Nat.toDigits_ne_nil).symm⟩
  have last : d ∈ Nat.toDigits 10 n := by
    rw [shape]
    exact List.mem_concat_self
  have digit : d.isDigit = true := Nat.isDigit_of_mem_toDigits (by decide) (by decide) last
  obtain ⟨noUnit, notB, notI⟩ := no_unit_of_isDigit digit
  have split : splitUnit ('-' :: front ++ [d] ++ []) = _ := splitUnit_unmarked notB notI .absent
  rw [List.append_nil, noUnit, List.cons_append, ← shape] at split
  rw [read, split]
  rfl

theorem read_printInt {n : Int} (small : n < signedLimit) :
    read (printInt n) = if n < 0 then .error .unfit else .ok (Int64.ofInt n) := by
  cases n with
  | ofNat m => exact read_toDigits (Int.ofNat_lt.mp small)
  | negSucc m =>
    rw [if_pos (Int.negSucc_lt_zero m)]
    exact read_minus (m + 1)

end ByteSize

/-! ## Fields -/

namespace Value

variable {settings : Settings} {field : Field} {op : Comparator} {format : NumberFormat}

/-- What a field makes of a printed number depends on its sign alone. -/
theorem ofRaw_of_print (number : field.kind = .number format) (n : Int64) :
    ofRaw settings field op (integer n).print =
      if format = .bytes ∧ n.toInt < 0 then
        .error (.unfitValue field.path (integer n).print .size)
      else .ok (.integer n) := by
  have text : (integer n).print.toList = printInt n.toInt := by rw [print, String.toList_ofList]
  rw [ofRaw_of_number number]
  cases format with
  | integer | decimal => simp [Value.number, decimal?, text, readInt64?_printInt, require]
  | bytes =>
    rw [Value.number, text, ByteSize.read_printInt n.toInt_lt, Int64.ofInt_toInt]
    by_cases negative : n.toInt < 0 <;> simp [negative, requireSize]

/-- Fields with numbers agree on the printed text of a whole number, but that sizes are not
negative, and whatever text a whole number was read from, it is read from its printed text too. -/
theorem ofRaw_print_integer (settings : Settings) (field : Field) (op : Comparator)
    (number : field.kind = .number format) :
    (format ≠ .bytes → ∀ n : Int64, ofRaw settings field op (integer n).print = .ok (.integer n)) ∧
    (format = .bytes → ∀ n : Int64, ofRaw settings field op (integer n).print =
      if 0 ≤ n.toInt then .ok (.integer n)
      else .error (.unfitValue field.path (integer n).print .size)) ∧
    ∀ raw n, ofRaw settings field op raw = .ok (.integer n) →
      ofRaw settings field op (integer n).print = .ok (.integer n) := by
  refine ⟨fun other n => ?_, fun bytes n => ?_, fun raw n read => ?_⟩
  · rw [ofRaw_of_print number, if_neg fun negative => other negative.1]
  · rw [ofRaw_of_print number]
    by_cases negative : n.toInt < 0
    · rw [if_pos ⟨bytes, negative⟩, if_neg (not_le.mpr negative)]
    · rw [if_neg fun both => negative both.2, if_pos (not_lt.mp negative)]
  · have fits : ¬ (format = .bytes ∧ n.toInt < 0) := by
      rintro ⟨rfl, negative⟩
      have takes := takes_of_ofRaw read
      rw [Field.Takes, number] at takes
      cases takes with
      | size _ nonnegative => exact absurd negative (not_lt.mpr nonnegative)
    rw [ofRaw_of_print number, if_neg fits]

/-- The smallest and the largest number, and numbers that are written with a sign, zeros and a
unit. -/
theorem ofRaw_print_integer_extremes :
    let field (format : NumberFormat) : Field := ⟨"f", "f", .number format, true, true⟩
    ofRaw .default (field .decimal) .equal "-9223372036854775808" = .ok (.integer Int64.minValue) ∧
    ofRaw .default (field .bytes) .equal "-9223372036854775808" =
      .error (.unfitValue "f" "-9223372036854775808" .size) ∧
    ofRaw .default (field .bytes) .equal "9223372036854775807" = .ok (.integer Int64.maxValue) ∧
    (ofRaw .default (field .integer) .equal "+007" = .ok (.integer 7) ∧
      ofRaw .default (field .integer) .equal "7" = .ok (.integer 7)) ∧
    ofRaw .default (field .bytes) .equal "01KiB" = .ok (.integer 1024) ∧
    ofRaw .default (field .bytes) .equal "1024" = .ok (.integer 1024) := by
  intro field
  obtain ⟨whole, -, -⟩ := ofRaw_print_integer .default (field .decimal) .equal rfl
  obtain ⟨-, sizes, again⟩ := ofRaw_print_integer .default (field .bytes) .equal rfl
  obtain ⟨-, -, same⟩ := ofRaw_print_integer .default (field .integer) .equal rfl
  have signed : ofRaw .default (field .integer) .equal "+007" = .ok (.integer 7) := rfl
  have unit : ofRaw .default (field .bytes) .equal "01KiB" = .ok (.integer 1024) := rfl
  exact ⟨whole (by decide) Int64.minValue, sizes rfl Int64.minValue, sizes rfl Int64.maxValue,
    ⟨signed, same _ _ signed⟩, unit, again _ _ unit⟩

end Value

end FilterQuery
