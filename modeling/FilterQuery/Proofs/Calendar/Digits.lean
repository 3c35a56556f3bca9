/-
# FilterQuery.Proofs.Calendar.Digits -- numbers of a timestamp, written and read

A scan for digits takes a run of them if the run has as many digits as may be
taken or something else stands behind it (`scanNumber_append`).  So a padded
number is read back in two ways: by a scan of exactly its width, whatever
follows (`scanNumber_padded`), and as the fraction of a second, where the digits
it lacks to nine count (`scanFraction_padded`).  Digits behind the ninth do not
count (`scanFraction_digits`).  `printFraction_cases` is all that is used of the
three widths in which a fraction is written.
-/
import FilterQuery.Calendar.Timestamp
import FilterQuery.Proofs.Text.Trim
import Mathlib.Algebra.Group.Nat.Defs

namespace FilterQuery.Calendar.Timestamp

open FilterQuery.Text

/-! ## Padded numbers -/

theorem isDigit_of_mem_padded {width n : Nat} {c : Char} (member : c ∈ padded width n) :
    c.isDigit = true := by
  rcases List.mem_append.mp member with zero | digit
  · rw [List.eq_of_mem_replicate zero]
    decide
  · exact Nat.isDigit_of_mem_toDigits (by decide) (by decide) digit

theorem length_padded_of_lt {width n : Nat} (positive : 0 < width) (fits : n < 10 ^ width) :
    (padded width n).length = width := by
  have short : (Nat.toDigits 10 n).length ≤ width :=
    (Nat.length_toDigits_le_iff (by decide) positive).mpr fits
  simp only [padded, List.length_append, List.length_replicate]
  omega

theorem length_padded_pos (width n : Nat) : 0 < (padded width n).length := by
  have := Nat.length_toDigits_pos (b := 10) (n := n)
  simp only [padded, List.length_append]
  omega

/-- Zeros in front of a number do not change it. -/
theorem ofDigitChars_padded (width n : Nat) : Nat.ofDigitChars 10 (padded width n) 0 = n := by
  rw [padded, Nat.ofDigitChars_append, Nat.ofDigitChars_replicate_zero, Nat.mul_zero,
    Nat.ofDigitChars_ten_toDigits]

theorem exists_padded_eq_cons (width n : Nat) :
    ∃ c digits, padded width n = c :: digits ∧ c.isDigit = true := by
  obtain ⟨c, digits, split⟩ := List.exists_cons_of_length_pos (length_padded_pos width n)
  exact ⟨c, digits, split, isDigit_of_mem_padded (split ▸ List.mem_cons_self)⟩

theorem not_isBlank_of_isDigit {c : Char} (digit : c.isDigit = true) : isBlank c = false := by
  obtain ⟨low, high⟩ : 48 ≤ c.toNat ∧ c.toNat ≤ 57 := Char.isDigit_iff_toNat.mp digit
  simp only [isBlank, Bool.or_eq_false_iff, Bool.and_eq_false_iff, decide_eq_false_iff_not,
    beq_eq_false_iff_ne]
  omega

/-! ## Scans -/

theorem scanNumber_append {least most : Nat} {digits rest : List Char}
    (inside : ∀ c ∈ digits, c.isDigit = true) (enough : least ≤ digits.length)
    (few : digits.length ≤ most)
    (stops : digits.length = most ∨ StopsAt (fun c => !c.isDigit) rest) :
    scanNumber least most (digits ++ rest) = some (Nat.ofDigitChars 10 digits 0, rest) := by
  -- What the width leaves of the rest begins as the rest does, or is nothing.
  have ends : StopsAt (fun c => !c.isDigit) (rest.take (most - digits.length)) := by
    intro c member
    rcases stops with full | stops
    · simp [full] at member
    · exact stops c (Option.mem_def.mpr (by
        rw [List.head?_take] at member
        split at member
        · cases member
        · exact member))
  have taken : ((digits ++ rest).take most).takeWhile Char.isDigit = digits := by
    rw [List.take_append, List.take_of_length_le few, takeWhile_append_of_stop inside ends]
  simp only [scanNumber, taken, Nat.not_lt.mpr enough, if_false, List.drop_left]

/-- A scan of exactly its width reads a padded number. -/
theorem scanNumber_padded {least width n : Nat} (positive : 0 < width) (narrow : least ≤ width)
    (fits : n < 10 ^ width) (rest : List Char) :
    scanNumber least width (padded width n ++ rest) = some (n, rest) := by
  have length := length_padded_of_lt positive fits
  rw [scanNumber_append (fun _ => isDigit_of_mem_padded) (by omega) (by omega) (.inl length),
    ofDigitChars_padded]

/-- The digits of a fraction behind the ninth are dropped. -/
theorem scanFraction_digits {s rest : List Char} (inside : ∀ c ∈ s, c.isDigit = true)
    (nonempty : s ≠ []) (stops : StopsAt (fun c => !c.isDigit) rest) :
    scanFraction (s ++ rest) = some
      (Nat.ofDigitChars 10 (s.take 9) 0 * Number.tenTo (9 - (s.take 9).length), rest) := by
  -- The digits behind the ninth stop the scan, or what stands behind the fraction does.
  have split : s ++ rest = s.take 9 ++ (s.drop 9 ++ rest) := by
    rw [← List.append_assoc, List.take_append_drop]
  have ends : (s.take 9).length = 9 ∨ StopsAt (fun c => !c.isDigit) (s.drop 9 ++ rest) := by
    by_cases long : 9 ≤ s.length
    · exact .inl (by simp [long])
    · exact .inr (by rwa [List.drop_of_length_le (by omega), List.nil_append])
  have positive : 0 < s.length := List.length_pos_iff.mpr nonempty
  have number : scanNumber 1 9 (s ++ rest) =
      some (Nat.ofDigitChars 10 (s.take 9) 0, s.drop 9 ++ rest) := by
    rw [split, scanNumber_append (fun c member => inside c (List.mem_of_mem_take member))
      (by simp; omega) (List.length_take_le 9 s) ends]
  have behind : (s.drop 9 ++ rest).dropWhile Char.isDigit = rest :=
    dropWhile_append_of_stop (fun c member => inside c (List.mem_of_mem_drop member)) stops
  have width : (s ++ rest).length - (s.drop 9 ++ rest).length = (s.take 9).length := by
    simp only [List.length_append, List.length_drop, List.length_take]
    omega
  simp only [scanFraction, number, Option.map_some, behind, width]

/-- A fraction of `width` digits is that number of the unit which its last digit has. -/
theorem scanFraction_padded {width n : Nat} (positive : 0 < width) (narrow : width ≤ 9)
    (fits : n < 10 ^ width) {rest : List Char} (stops : StopsAt (fun c => !c.isDigit) rest) :
    scanFraction (padded width n ++ rest) = some (n * Number.tenTo (9 - width), rest) := by
  have length := length_padded_of_lt positive fits
  have few : (padded width n).take 9 = padded width n := List.take_of_length_le (by omega)
  have nonempty : padded width n ≠ [] := List.length_pos_iff.mp (by omega)
  rw [scanFraction_digits (fun _ => isDigit_of_mem_padded) nonempty stops, few, ofDigitChars_padded,
    length]

/-- A second without a fraction has none written; for any other fraction it is written how many of
its last unit it has. -/
theorem printFraction_cases {nano : Nat} (below : nano < 1000000000) :
    (nano = 0 ∧ printFraction nano = []) ∨
      (nano ≠ 0 ∧ ∃ width n, 0 < width ∧ width ≤ 9 ∧ n < 10 ^ width ∧
        n * Number.tenTo (9 - width) = nano ∧ printFraction nano = '.' :: padded width n) := by
  by_cases whole : nano = 0
  · exact .inl ⟨whole, by simp [printFraction, whole]⟩
  · refine .inr ⟨whole, ?_⟩
    by_cases milli : nano % 1000000 = 0
    · exact ⟨3, nano / 1000000, by decide, by decide, by omega,
        Nat.div_mul_cancel (Nat.dvd_of_mod_eq_zero milli), by simp [printFraction, whole, milli]⟩
    by_cases micro : nano % 1000 = 0
    · exact ⟨6, nano / 1000, by decide, by decide, by omega,
        Nat.div_mul_cancel (Nat.dvd_of_mod_eq_zero micro),
        by simp [printFraction, whole, milli, micro]⟩
    · exact ⟨9, nano, by decide, by decide, below, by simp [Number.tenTo],
        by simp [printFraction, whole, milli, micro]⟩

end FilterQuery.Calendar.Timestamp
