/-
# FilterQuery.Proofs.Value.Sizes -- whole sizes are read exactly or refused

The unit is taken from the end of a size (`splitUnit_append`), and what the scan makes of the
digits in front of it is the product of the number and the factor, a refusal, or an overflow
(`read_of_sizeText`).  A number that breaks off the scan was too large for a size
(`signedLimit_le_of_roundsOver`), so it should have been refused.  Nothing else that is read breaks
off (`Value.ofRaw_eq_overflow_iff`).

Fields with whole numbers read digits by another reader, with the same result
(`readInt64?_of_digits`).
-/
import FilterQuery.Proofs.Value.SizeScan
import FilterQuery.Proofs.Value.Typing

namespace FilterQuery.ByteSize

open FilterQuery.Number

/-! ## Units -/

section Units

variable {c d lower upper letter : Char} {front tail unit : List Char} {factor power : Nat}

theorem stripLast_append (front : List Char) (same : d.toLower = c) :
    stripLast c (front ++ [d]) = some front := by
  simp [stripLast, same]

theorem stripLast_append_other (front : List Char) (other : d.toLower ≠ c) :
    stripLast c (front ++ [d]) = none := by
  simp [stripLast, other]

/-- A letter that may be there is gone afterwards, and nothing else is. -/
theorem stripLast_perhaps (front : List Char) (perhaps : Perhaps lower upper tail)
    (small : lower.toLower = c) (capital : upper.toLower = c) (other : d.toLower ≠ c) :
    (stripLast c (front ++ [d] ++ tail)).getD (front ++ [d] ++ tail) = front ++ [d] := by
  cases perhaps with
  | absent => rw [List.append_nil, stripLast_append_other front other, Option.getD_none]
  | lower => rw [stripLast_append (front ++ [d]) small, Option.getD_some]
  | upper => rw [stripLast_append (front ++ [d]) capital, Option.getD_some]

theorem unitPower?_of_mem (member : (letter, power) ∈ unitLetters) :
    unitPower? letter = some power ∧ letter.toLower ≠ 'b' ∧ letter.toLower ≠ 'i' := by
  have all : ∀ entry ∈ unitLetters,
      unitPower? entry.1 = some entry.2 ∧ entry.1.toLower ≠ 'b' ∧ entry.1.toLower ≠ 'i' := by
    decide
  exact all _ member

theorem toLower_of_isDigit (digit : d.isDigit = true) : d.toLower = d := by
  have notUpper : ¬ (d.val ≥ 'A'.val ∧ d.val ≤ 'Z'.val) := by
    simp only [Char.isDigit, Bool.and_eq_true, decide_eq_true_eq] at digit
    intro upper
    exact absurd (UInt32.le_trans upper.1 digit.2) (by decide)
  exact dif_neg notUpper

theorem no_unit_of_isDigit (digit : d.isDigit = true) :
    unitPower? d = none ∧ d.toLower ≠ 'b' ∧ d.toLower ≠ 'i' := by
  have letters : ['k', 'm', 'g', 't', 'p', 'e', 'b', 'i'].any Char.isDigit = false := by decide
  have other : ∀ l ∈ ['k', 'm', 'g', 't', 'p', 'e', 'b', 'i'], d ≠ l := by
    rintro l member rfl
    exact List.any_eq_false.mp letters d member digit
  rw [unitPower?, toLower_of_isDigit digit]
  refine ⟨?_, other 'b' (by decide), other 'i' (by decide)⟩
  split
  case h_7 => rfl
  all_goals exact absurd rfl (other _ (by decide))

/-- Without an `i` the last character may be a letter for a power of 1000. -/
theorem splitUnit_unmarked (notB : d.toLower ≠ 'b') (notI : d.toLower ≠ 'i')
    (byte : Perhaps 'b' 'B' tail) :
    splitUnit (front ++ [d] ++ tail) =
      match unitPower? d with
      | some power => (front, 1000 ^ power)
      | none => (front ++ [d], 1) := by
  have byteGone := stripLast_perhaps front byte (by decide) (by decide) notB
  have noMark := stripLast_append_other front notI
  rw [splitUnit, byteGone]
  simp only [noMark, List.getLast?_concat, Option.bind_some, List.dropLast_concat]
  rfl

/-- In front of an `i` there may be a letter for a power of 1024. -/
theorem splitUnit_marked (isMark : d.toLower = 'i') (byte : Perhaps 'b' 'B' tail) :
    splitUnit (front ++ [d] ++ tail) =
      match front.getLast?.bind unitPower? with
      | some power => (front.dropLast, 1024 ^ power)
      | none => (front, 1) := by
  have notB : d.toLower ≠ 'b' := by
    rw [isMark]
    decide
  have byteGone := stripLast_perhaps front byte (by decide) (by decide) notB
  have markGone := stripLast_append front isMark
  rw [splitUnit, byteGone]
  simp only [markGone]
  rfl

/-- The unit is taken from behind the digits, and they are what is left. -/
theorem splitUnit_append {digits : List Char} (nonempty : digits ≠ [])
    (all : ∀ c ∈ digits, c.isDigit = true) (text : UnitText unit factor) :
    splitUnit (digits ++ unit) = (digits, factor) := by
  obtain ⟨front, d, rfl⟩ : ∃ front d, digits = front ++ [d] :=
    ⟨_, _, (List.dropLast_concat_getLast nonempty).symm⟩
  obtain ⟨noUnit, notB, notI⟩ := no_unit_of_isDigit (all d (by simp))
  have noUnit' : (front ++ [d]).getLast?.bind unitPower? = none := by
    rw [List.getLast?_concat, Option.bind_some, noUnit]
  cases text with
  | @bytes mark byte perhapsMark perhapsByte =>
      rw [← List.append_assoc]
      cases perhapsMark with
      | absent => rw [List.append_nil, splitUnit_unmarked notB notI perhapsByte, noUnit]
      | lower => rw [splitUnit_marked (by decide) perhapsByte, noUnit']
      | upper => rw [splitUnit_marked (by decide) perhapsByte, noUnit']
  | @decimal letter power byte member perhapsByte =>
      obtain ⟨isUnit, letterB, letterI⟩ := unitPower?_of_mem member
      have shape : front ++ [d] ++ letter :: byte = front ++ [d] ++ [letter] ++ byte := by simp
      rw [shape, splitUnit_unmarked letterB letterI perhapsByte, isUnit]
  | @binary letter mark power byte member isMark perhapsByte =>
      obtain ⟨isUnit, -, -⟩ := unitPower?_of_mem member
      have small : mark.toLower = 'i' := by
        rcases isMark with rfl | rfl <;> decide
      have shape : front ++ [d] ++ letter :: mark :: byte =
          front ++ [d] ++ [letter] ++ [mark] ++ byte := by
        simp
      rw [shape, splitUnit_marked small perhapsByte, List.getLast?_concat, Option.bind_some, isUnit,
        List.dropLast_concat]

theorem power_bounds (base : Nat) (positive : 0 < base) (small : base ≤ 1024)
    (member : (letter, power) ∈ unitLetters) : 0 < base ^ power ∧ base ^ power < wordLimit := by
  have powers : ∀ entry ∈ unitLetters, entry.2 ≤ 6 := by decide
  refine ⟨Nat.pow_pos positive, ?_⟩
  calc base ^ power ≤ 1024 ^ power := Nat.pow_le_pow_left small power
    _ ≤ 1024 ^ 6 := Nat.pow_le_pow_right (by decide) (powers _ member)
    _ < wordLimit := by decide

theorem factor_bounds (text : UnitText unit factor) : 0 < factor ∧ factor < wordLimit := by
  cases text with
  | bytes => decide
  | decimal member => exact power_bounds 1000 (by decide) (by decide) member
  | binary member => exact power_bounds 1024 (by decide) (by decide) member

end Units

/-! ## Texts -/

section Texts

variable {n factor : Nat}

/-- What breaks off was too large. -/
theorem signedLimit_le_of_roundsOver {text : List Char} (h : SizeText text n factor)
    (breaks : RoundsOver n) : signedLimit ≤ n * factor := by
  obtain ⟨behind, large, -⟩ := breaks
  have positive : 0 < factor := by
    cases h with
    | mk _ _ isUnit => exact (factor_bounds isUnit).1
  calc signedLimit ≤ 10 * wordLimit - 5 := by decide
    _ ≤ n / 10 ^ behind := large
    _ ≤ n := Nat.div_le_self _ _
    _ ≤ n * factor := Nat.le_mul_of_pos_right _ positive

/-- Whole sizes are read exactly or refused, but for those that break off. -/
theorem read_of_sizeText {text : List Char} (h : SizeText text n factor) :
    read text =
      if RoundsOver n then .error .overflow
      else if n * factor < signedLimit then .ok (Int64.ofNat (n * factor))
      else .error .unfit := by
  cases h with
  | @mk digits unit _ nonempty all isUnit =>
      obtain ⟨positive, bounded⟩ := factor_bounds isUnit
      rw [← size_of_scanned (scanned_digits nonempty all) positive bounded, read,
        splitUnit_append nonempty all isUnit]

end Texts

end FilterQuery.ByteSize

namespace FilterQuery

open Number

/-! ## Whole numbers -/

theorem Number.readInt64?_of_digits {digits : List Char} (nonempty : digits ≠ [])
    (all : ∀ c ∈ digits, c.isDigit = true) :
    readInt64? digits =
      if Nat.ofDigitChars 10 digits 0 < signedLimit then
        some (Int64.ofNat (Nat.ofDigitChars 10 digits 0))
      else none := by
  obtain ⟨c, r, rfl⟩ := List.exists_cons_of_ne_nil nonempty
  have isDigit := all c List.mem_cons_self
  have notMinus : c ≠ '-' := by
    rintro rfl
    exact absurd isDigit (by decide)
  have notPlus : c ≠ '+' := by
    rintro rfl
    exact absurd isDigit (by decide)
  have number : readInt? (c :: r) = some (Nat.ofDigitChars 10 (c :: r) 0 : Int) := by
    have digits : (c :: r).all Char.isDigit = true := List.all_eq_true.mpr all
    simp [readInt?, notMinus, notPlus, readNat?, digits]
  generalize Nat.ofDigitChars 10 (c :: r) 0 = n at number ⊢
  have fits : fitsInt64 n = true ↔ n < signedLimit := by
    simp only [fitsInt64, Bool.and_eq_true, decide_eq_true_eq]
    omega
  simp only [readInt64?, number, fits, Int64.ofInt_eq_ofNat]

/-- A size that is digits alone has no unit. -/
theorem ByteSize.SizeText.of_digits {text : List Char} {n factor : Nat}
    (h : SizeText text n factor) (all : ∀ c ∈ text, c.isDigit = true) :
    text ≠ [] ∧ n = Nat.ofDigitChars 10 text 0 ∧ factor = 1 := by
  cases h with
  | @mk digits unit _ nonempty _ isUnit =>
      have noUnit : unit = [] ∧ factor = 1 := by
        have inUnit : ∀ c ∈ unit, c.isDigit = true :=
          fun c member => all c (List.mem_append_right _ member)
        have letters : ∀ entry ∈ unitLetters, entry.1.isDigit = false := by decide
        cases isUnit with
        | bytes mark byte =>
            cases mark <;> cases byte <;> simp at inUnit
            exact ⟨rfl, rfl⟩
        | decimal member =>
            have := letters _ member
            simp [this] at inUnit
        | binary member =>
            have := letters _ member
            simp [this] at inUnit
      obtain ⟨rfl, rfl⟩ := noUnit
      rw [List.append_nil]
      exact ⟨nonempty, rfl, rfl⟩

/-! ## Fields -/

namespace Value

variable {settings : Settings} {field : Field} {op : Comparator} {raw : String} {n factor : Nat}

theorem ofRaw_of_number {format : NumberFormat} (number : field.kind = .number format) :
    ofRaw settings field op raw = Value.number field format raw := by
  simp only [ofRaw, number]

theorem requireSize_eq_overflow_iff {read : Except ByteSize.Fault Int64} :
    requireSize field raw read = .error .overflow ↔ read = .error .overflow := by
  rcases read with (_ | _) | n <;> simp [requireSize]

/-- Nothing but the scan of a size breaks off. -/
theorem ofRaw_eq_overflow_iff : ofRaw settings field op raw = .error .overflow ↔
    field.kind = .number .bytes ∧ ByteSize.read raw.toList = .error .overflow := by
  constructor
  · intro breaks
    rcases ofRaw_cases settings field op raw with ⟨reason, _, _, refused⟩ | read
    · rw [refused] at breaks
      cases breaks
    · rw [read, reading] at breaks
      split at breaks
      · cases breaks
      · rename_i format kind
        cases format with
        | integer => cases require_eq_error breaks
        | decimal => cases require_eq_error breaks
        | bytes => exact ⟨kind, requireSize_eq_overflow_iff.mp breaks⟩
      all_goals cases require_eq_error breaks
  · rintro ⟨bytes, breaks⟩
    rw [ofRaw_of_number bytes, number]
    exact requireSize_eq_overflow_iff.mpr breaks

theorem ofRaw_of_roundsOver (bytes : field.kind = .number .bytes)
    (text : ByteSize.SizeText raw.toList n factor) (breaks : ByteSize.RoundsOver n) :
    ofRaw settings field op raw = .error .overflow := by
  refine ofRaw_eq_overflow_iff.mpr ⟨bytes, ?_⟩
  rw [ByteSize.read_of_sizeText text, if_pos breaks]

theorem readsSize_of_not_roundsOver (bytes : field.kind = .number .bytes)
    (text : ByteSize.SizeText raw.toList n factor) (kept : ¬ ByteSize.RoundsOver n) :
    ReadsSize settings field op raw (n * factor) := by
  have read := ByteSize.read_of_sizeText text
  rw [if_neg kept] at read
  refine ⟨?_, ?_, ?_⟩
  · intro fits
    refine ⟨.ofNat (n * factor), Int64.toInt_ofNat_of_lt fits, ?_⟩
    rw [ofRaw_of_number bytes, number, read, if_pos fits]
    rfl
  · intro large
    rw [ofRaw_of_number bytes, number, read, if_neg (not_lt.mpr large)]
    rfl
  · intro digits other integer v
    obtain ⟨nonempty, same, rfl⟩ := text.of_digits digits
    rw [Nat.mul_one] at read
    rw [ofRaw_of_number bytes, ofRaw_of_number integer, number, number, requireSize_eq_ok_iff,
      require_eq_ok_iff, read, readInt64?_of_digits nonempty digits, ← same]
    by_cases fits : n < signedLimit <;> simp [fits, eq_comm]

/-- A whole size is read exactly or refused unless rounding its digits overflows, and then
everything breaks off. -/
theorem ofRaw_size_exact_iff (settings : Settings) (op : Comparator)
    (bytes : field.kind = .number .bytes) (text : ByteSize.SizeText raw.toList n factor) :
    (ReadsSize settings field op raw (n * factor) ↔ ¬ ByteSize.RoundsOver n) ∧
    (ByteSize.RoundsOver n → ofRaw settings field op raw = .error .overflow) := by
  refine ⟨⟨?_, readsSize_of_not_roundsOver bytes text⟩, ofRaw_of_roundsOver bytes text⟩
  intro reads breaks
  have refused := reads.refused (ByteSize.signedLimit_le_of_roundsOver text breaks)
  rw [ofRaw_of_roundsOver bytes text breaks] at refused
  cases refused

/-- The largest number of kibibytes that fits, behind a zero, and one more. -/
theorem ofRaw_size_exact_kibibytes :
    let field : Field := ⟨"f", "f", .number .bytes, true, true⟩
    (∃ n : Int64, n.toInt = 9223372036854774784 ∧
      ofRaw .default field .equal "09007199254740991KiB" = .ok (.integer n)) ∧
    ofRaw .default field .equal "9007199254740992kI" =
      .error (.unfitValue "f" "9007199254740992kI" .size) := by
  intro field
  have fits : ByteSize.SizeText "09007199254740991KiB".toList 9007199254740991 1024 := by
    have text : ByteSize.SizeText ("09007199254740991".toList ++ ['K', 'i', 'B'])
        9007199254740991 (1024 ^ 1) :=
      .mk (by decide) (List.all_eq_true.mp (by decide)) (.binary (by decide) (.inl rfl) .upper)
    exact text
  have large : ByteSize.SizeText "9007199254740992kI".toList 9007199254740992 1024 := by
    have text : ByteSize.SizeText ("9007199254740992".toList ++ ['k', 'I'])
        9007199254740992 (1024 ^ 1) :=
      .mk (by decide) (List.all_eq_true.mp (by decide)) (.binary (by decide) (.inr rfl) .absent)
    exact text
  have exactly : ReadsSize .default field .equal "09007199254740991KiB" _ :=
    (ofRaw_size_exact_iff .default .equal rfl fits).1.mpr (by decide)
  have refused : ReadsSize .default field .equal "9007199254740992kI" _ :=
    (ofRaw_size_exact_iff .default .equal rfl large).1.mpr (by decide)
  exact ⟨exactly.exact (by decide), refused.refused (by decide)⟩

/-- Twenty digits are the largest number of 64 bits, and a digit behind them would round it up. -/
theorem ofRaw_size_overflow :
    let field : Field := ⟨"f", "f", .number .bytes, true, true⟩
    ByteSize.SizeText "184467440737095516155".toList 184467440737095516155 1 ∧
    ofRaw .default field .equal "184467440737095516155" = .error .overflow ∧
    ¬ ReadsSize .default field .equal "184467440737095516155" (184467440737095516155 * 1) := by
  intro field
  have text : ByteSize.SizeText "184467440737095516155".toList 184467440737095516155 1 := by
    have digits : ByteSize.SizeText ("184467440737095516155".toList ++ ([] ++ []))
        184467440737095516155 1 :=
      .mk (by decide) (List.all_eq_true.mp (by decide)) (.bytes .absent .absent)
    exact digits
  have breaks : ByteSize.RoundsOver 184467440737095516155 := ⟨0, by decide, by decide⟩
  have read : ofRaw .default field .equal "184467440737095516155" = .error .overflow :=
    ofRaw_of_roundsOver rfl text breaks
  refine ⟨text, read, fun reads => ?_⟩
  have refused := reads.refused (by decide)
  rw [read] at refused
  cases refused

end Value

end FilterQuery
