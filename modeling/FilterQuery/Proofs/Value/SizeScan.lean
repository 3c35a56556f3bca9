/-
# FilterQuery.Proofs.Value.SizeScan -- what the scan of a size makes of digits

A scan of digits holds the number that they denote as long as that fits 64 bits.  From the first
digit that does not fit on it holds what was there, rounded by that digit, and counts the digits, or
it has broken off (`Scanned`).  One more digit keeps this so (`Scanned.step`), and then any number
of digits does (`Scanned.run`).

A number that does not fit is too large for a size also when its last digits are gone
(`signedLimit_le_total`), so it is refused whatever its unit is, unless rounding it breaks off
(`size_of_scanned`).
-/
import FilterQuery.Value.Size
import Mathlib.Tactic.NormNum

namespace FilterQuery.ByteSize

open FilterQuery.Number

/-! ## Digits -/

/-- Without its last `dropped` digits `n` is the first number of those read that does not fit. -/
def Overflows (n dropped : Nat) : Prop :=
  wordLimit ≤ n / 10 ^ dropped ∧ n / 10 ^ dropped / 10 < wordLimit

/-- What the scan of digits that denote `n` comes to. -/
inductive Scanned (n : Nat) : Except Fault Scan → Prop where
  | fits : n < wordLimit → Scanned n (.ok ⟨.whole, .ofNat n, 0, 0⟩)
  | full {dropped : Nat} : Overflows n dropped →
      Scanned n ((Scan.rounded (.ofNat (n / 10 ^ dropped / 10)) (n / 10 ^ dropped % 10)).map
        fun m => ⟨.wholeFull, m, dropped + 1, 0⟩)

section Digits

variable {n digit dropped : Nat} {s : Scan} {scanned : Except Fault Scan} {digits : List Char}

theorem toNat_ofNat_of_lt (small : n < wordLimit) : (UInt64.ofNat n).toNat = n := by
  rw [UInt64.toNat_ofNat']
  exact Nat.mod_eq_of_lt small

theorem appended?_ofNat (small : n < wordLimit) :
    Scan.appended? (UInt64.ofNat n).toNat digit =
      if 10 * n + digit < wordLimit then some (10 * n + digit) else none := by
  rw [toNat_ofNat_of_lt small, Scan.appended?]

theorem div_append_digit (n dropped : Nat) (isDigit : digit < 10) :
    (10 * n + digit) / 10 ^ (dropped + 1) = n / 10 ^ dropped := by
  rw [Nat.pow_succ', ← Nat.div_div_eq_div_mul]
  congr 1
  omega

/-- One more digit. -/
theorem Scanned.step (h : Scanned n scanned) (isDigit : digit < 10) :
    Scanned (10 * n + digit) (scanned >>= (·.digit digit)) := by
  cases h with
  | fits small =>
      show Scanned _ (Scan.digit ⟨.whole, .ofNat n, 0, 0⟩ digit)
      by_cases room : 10 * n + digit < wordLimit
      · simp only [Scan.digit, appended?_ofNat small, if_pos room]
        exact .fits room
      · have first : Overflows (10 * n + digit) 0 := by
          unfold Overflows
          rw [Nat.pow_zero, Nat.div_one]
          omega
        have before : (10 * n + digit) / 10 ^ 0 / 10 = n := by omega
        have last : (10 * n + digit) / 10 ^ 0 % 10 = digit := by omega
        have full := Scanned.full first
        rw [before, last] at full
        simp only [Scan.digit, appended?_ofNat small, if_neg room]
        exact full
  | @full dropped exceeds =>
      have same := div_append_digit n dropped isDigit
      have later : Overflows (10 * n + digit) (dropped + 1) := by
        rw [Overflows, same]
        exact exceeds
      have full := Scanned.full later
      rw [same] at full
      -- What has broken off stays so, and all else only counts the digit.
      cases rounded : Scan.rounded (.ofNat (n / 10 ^ dropped / 10)) (n / 10 ^ dropped % 10) with
      | error fault => rwa [rounded] at full
      | ok mantissa => rwa [rounded] at full

theorem step_of_isDigit {c : Char} (isDigit : c.isDigit = true) :
    s.step c = s.digit (c.toNat - '0'.toNat) := by
  rw [Scan.step, if_pos isDigit]

theorem digit_lt_ten {c : Char} (isDigit : c.isDigit = true) : c.toNat - '0'.toNat < 10 := by
  have bounds := Char.isDigit_iff_toNat.mp isDigit
  have last : '9'.toNat = '0'.toNat + 9 := rfl
  omega

/-- Any number of digits. -/
theorem Scanned.run (h : Scanned n scanned) (all : ∀ c ∈ digits, c.isDigit = true) :
    Scanned (Nat.ofDigitChars 10 digits n) (scanned >>= (digits.foldlM Scan.step ·)) := by
  induction digits generalizing n scanned with
  | nil => simpa using h
  | cons c digits ih =>
      have isDigit := all c List.mem_cons_self
      have next := ih (h.step (digit_lt_ten isDigit)) fun c member =>
        all c (List.mem_cons_of_mem _ member)
      rw [Nat.ofDigitChars_cons]
      simpa only [List.foldlM_cons, step_of_isDigit isDigit, bind_assoc] using next

/-- The first digit fits, whatever it is. -/
theorem scanned_start (isDigit : digit < 10) : Scanned digit (Scan.start.digit digit) := by
  have small : digit < wordLimit := lt_trans isDigit (by decide)
  have room : Scan.appended? (UInt64.toNat 0) digit = some digit := by
    simp [Scan.appended?, small]
  simp only [Scan.start, Scan.digit, room]
  exact .fits small

theorem scanned_digits (nonempty : digits ≠ []) (all : ∀ c ∈ digits, c.isDigit = true) :
    Scanned (Nat.ofDigitChars 10 digits 0) (digits.foldlM Scan.step Scan.start) := by
  obtain ⟨c, digits, rfl⟩ := List.exists_cons_of_ne_nil nonempty
  have isDigit := all c List.mem_cons_self
  have scanned := (scanned_start (digit_lt_ten isDigit)).run fun c member =>
    all c (List.mem_cons_of_mem _ member)
  rw [List.foldlM_cons, step_of_isDigit isDigit, Nat.ofDigitChars_cons, Nat.mul_zero, Nat.zero_add]
  exact scanned

end Digits

/-! ## Totals -/

section Totals

variable {n factor dropped first : Nat} {scanned : Except Fault Scan}

theorem total?_fits (small : n < wordLimit) (fits : factor < wordLimit) :
    (Scan.mk .whole (.ofNat n) 0 0).total? factor =
      if n * factor < wordLimit then some (n * factor) else none := by
  simp [Scan.total?, tenTo, fits, toNat_ofNat_of_lt small]

/-- A factor that leaves room for no power of ten is too large. -/
theorem lt_of_mul_pow_lt {power : Nat} (positive : 0 < factor)
    (room : factor * 10 ^ power < wordLimit) : power < 20 := by
  by_contra large
  have : 10 ^ 20 ≤ 10 ^ power := Nat.pow_le_pow_right (by decide) (not_lt.mp large)
  have : 10 ^ power ≤ factor * 10 ^ power := Nat.le_mul_of_pos_left _ positive
  unfold wordLimit at room
  omega

theorem total?_full {mantissa : UInt64} (positive : 0 < factor) :
    (Scan.mk .wholeFull mantissa (dropped + 1) 0).total? factor =
      if factor * 10 ^ (dropped + 1) < wordLimit then
        if mantissa.toNat * (factor * 10 ^ (dropped + 1)) < wordLimit then
          some (mantissa.toNat * (factor * 10 ^ (dropped + 1)))
        else none
      else none := by
  have exponent : (0 : Int) + (dropped + 1) = ((dropped + 1 : Nat) : Int) := by omega
  have notStart : Phase.wholeFull ≠ Phase.start := by decide
  simp only [Scan.total?, exponent, if_neg notStart, Int.natCast_nonneg, if_true, Int.toNat_natCast,
    tenTo, Nat.pow_eq]
  by_cases room : factor * 10 ^ (dropped + 1) < wordLimit
  · have few := lt_of_mul_pow_lt positive room
    rw [if_pos (by omega), if_pos room, if_pos room]
    rfl
  · rw [if_neg room, if_neg room]
    split <;> rfl

theorem not_roundsOver_of_lt (small : n < wordLimit) : ¬ RoundsOver n := by
  rintro ⟨behind, large, -⟩
  have : n / 10 ^ behind ≤ n := Nat.div_le_self _ _
  unfold wordLimit at small large
  omega

/-- Only one of the numbers read is the first that does not fit. -/
theorem not_overflows_of_lt {fewer : Nat} (exceeds : Overflows n fewer) (less : fewer < dropped) :
    ¬ Overflows n dropped := by
  rintro ⟨large, -⟩
  have split : dropped = fewer + 1 + (dropped - fewer - 1) := by omega
  have shorter : n / 10 ^ dropped ≤ n / 10 ^ fewer / 10 := by
    rw [split, Nat.pow_add, Nat.pow_succ, ← Nat.div_div_eq_div_mul, ← Nat.div_div_eq_div_mul]
    exact Nat.div_le_self _ _
  have small := exceeds.2
  omega

theorem Overflows.unique {other : Nat} (exceeds : Overflows n dropped) (later : Overflows n other) :
    other = dropped := by
  rcases Nat.lt_trichotomy other dropped with less | same | more
  · exact absurd exceeds (not_overflows_of_lt later less)
  · exact same
  · exact absurd later (not_overflows_of_lt exceeds more)

theorem roundsOver_iff (exceeds : Overflows n dropped) :
    RoundsOver n ↔ 10 * wordLimit - 5 ≤ n / 10 ^ dropped := by
  constructor
  · rintro ⟨behind, low, high⟩
    have here : Overflows n behind := by
      unfold Overflows
      unfold wordLimit at low high ⊢
      omega
    obtain rfl := exceeds.unique here
    exact low
  · intro low
    have high := exceeds.2
    exact ⟨dropped, low, by omega⟩

/-- The largest number of 64 bits cannot be rounded up. -/
theorem rounded_of_large (fits : first / 10 < wordLimit) (large : 10 * wordLimit - 5 ≤ first) :
    Scan.rounded (.ofNat (first / 10)) (first % 10) = .error .overflow := by
  have largest : first / 10 = wordLimit - 1 := by
    unfold wordLimit at *
    omega
  have up : ¬ first % 10 < 5 := by
    unfold wordLimit at *
    omega
  rw [Scan.rounded, if_neg up, largest]
  decide

/-- Any other number can, and is no smaller then. -/
theorem rounded_of_small (fits : first / 10 < wordLimit) (small : first < 10 * wordLimit - 5) :
    ∃ m, Scan.rounded (.ofNat (first / 10)) (first % 10) = .ok m ∧ first / 10 ≤ m.toNat := by
  have value := toNat_ofNat_of_lt fits
  unfold Scan.rounded
  by_cases down : first % 10 < 5
  · rw [if_pos down]
    exact ⟨_, rfl, value.ge⟩
  · have room : first / 10 + 1 < wordLimit := by
      unfold wordLimit at *
      omega
    rw [if_neg down, value, if_pos room]
    refine ⟨_, rfl, ?_⟩
    rw [UInt64.toNat_add, value]
    unfold wordLimit at *
    simp only [UInt64.toNat_one]
    omega

/-- What does not fit is too large also without its last digits. -/
theorem signedLimit_le_total (exceeds : Overflows n dropped) (positive : 0 < factor)
    {mantissa : Nat} (rounded : n / 10 ^ dropped / 10 ≤ mantissa) :
    signedLimit ≤ mantissa * (factor * 10 ^ (dropped + 1)) := by
  have ten : 10 ≤ factor * 10 ^ (dropped + 1) := by
    calc 10 = 1 * 10 ^ 1 := rfl
      _ ≤ factor * 10 ^ (dropped + 1) :=
        Nat.mul_le_mul positive (Nat.pow_le_pow_right (by decide) (by omega))
  have large := exceeds.1
  calc signedLimit ≤ n / 10 ^ dropped / 10 * 10 := by
        unfold wordLimit at large
        unfold signedLimit
        omega
    _ ≤ mantissa * (factor * 10 ^ (dropped + 1)) := Nat.mul_le_mul rounded ten

theorem signedLimit_le_size (exceeds : Overflows n dropped) (positive : 0 < factor) :
    signedLimit ≤ n * factor := by
  have large := exceeds.1
  calc signedLimit ≤ wordLimit := by decide
    _ ≤ n / 10 ^ dropped := large
    _ ≤ n := Nat.div_le_self _ _
    _ ≤ n * factor := Nat.le_mul_of_pos_right _ positive

theorem size_fits (small : n < wordLimit) (bounded : factor < wordLimit) :
    (Scan.mk .whole (.ofNat n) 0 0).size factor =
      if n * factor < signedLimit then .ok (Int64.ofNat (n * factor)) else .error .unfit := by
  rw [Scan.size, total?_fits small bounded]
  by_cases room : n * factor < wordLimit
  · rw [if_pos room]
  · have large : ¬ n * factor < signedLimit := by
      unfold wordLimit at room
      unfold signedLimit
      omega
    rw [if_neg room, if_neg large]

/-- What does not fit is refused, whatever of it is left. -/
theorem size_full (exceeds : Overflows n dropped) (positive : 0 < factor) {mantissa : UInt64}
    (rounded : n / 10 ^ dropped / 10 ≤ mantissa.toNat) :
    (Scan.mk .wholeFull mantissa (dropped + 1) 0).size factor = .error .unfit := by
  have large := signedLimit_le_total exceeds positive rounded
  rw [Scan.size, total?_full positive]
  by_cases room : factor * 10 ^ (dropped + 1) < wordLimit
  · rw [if_pos room]
    by_cases fits : mantissa.toNat * (factor * 10 ^ (dropped + 1)) < wordLimit
    · rw [if_pos fits]
      exact if_neg (not_lt.mpr large)
    · rw [if_neg fits]
  · rw [if_neg room]

theorem size_of_scanned (h : Scanned n scanned) (positive : 0 < factor)
    (bounded : factor < wordLimit) : (scanned >>= (·.size factor)) =
      if RoundsOver n then .error .overflow
      else if n * factor < signedLimit then .ok (Int64.ofNat (n * factor))
      else .error .unfit := by
  cases h with
  | fits small =>
      rw [if_neg (not_roundsOver_of_lt small), ← size_fits small bounded]
      rfl
  | @full dropped exceeds =>
      by_cases breaks : RoundsOver n
      · rw [rounded_of_large exceeds.2 ((roundsOver_iff exceeds).mp breaks), if_pos breaks]
        rfl
      · have small := not_le.mp (mt (roundsOver_iff exceeds).mpr breaks)
        obtain ⟨m, rounded, kept⟩ := rounded_of_small exceeds.2 small
        rw [rounded, if_neg breaks, if_neg (not_lt.mpr (signedLimit_le_size exceeds positive))]
        exact size_full exceeds positive kept

end Totals

end FilterQuery.ByteSize
