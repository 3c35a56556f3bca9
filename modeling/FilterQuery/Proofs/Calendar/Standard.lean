/-
# FilterQuery.Proofs.Calendar.Standard -- timestamps are read and written by RFC 3339

Each timestamp of RFC 3339 is read as the moment it means (`read?_of_rfc3339`).  In UTC, what is
written for a timestamp is its RFC 3339 text if the year has four digits
(`rfc3339_printChars`), and so it is read back (`read?_printChars`).  Other years are written
with a sign, which no RFC 3339 text begins with (`rfc3339_printChars_iff`), and such a text is
not read (`read?_printChars_of_long`).
-/
import FilterQuery.Calendar.Standard
import FilterQuery.Proofs.Calendar.Relaxed

namespace FilterQuery.Calendar.Timestamp

open FilterQuery.Text

variable {width n : Nat} {s : List Char} {t l : Timestamp} {offset : Int}

/-! ## Reading -/

theorem Digits.scan (number : Digits width n s) (rest : List Char) :
    scanNumber width width (s ++ rest) = some (n, rest) := by
  rw [scanNumber_append number.digits (Nat.le_of_eq number.length.symm)
    (Nat.le_of_eq number.length) (.inl number.length), number.value]

/-- A zone begins with none of the characters that the number before it could go on with. -/
theorem Zone.stopsAt {z : List Char} (zone : Zone z offset) :
    StopsAt (fun c => !c.isDigit && c != '.') z := by
  cases zone with
  | utc zulu => rcases zulu with rfl | rfl <;> simp
  | ahead | behind => simp

theorem Zone.scan {z : List Char} (zone : Zone z offset) : scanOffset z = some (offset, []) := by
  cases zone with
  | utc zulu => rcases zulu with rfl | rfl <;> rfl
  | ahead hour below minute small | behind hour below minute small =>
      have last := minute.scan []
      rw [List.append_nil] at last
      simp [scanOffset, scanSign, hour.scan, expect, last, below, small]

/-- A step of a reading that succeeds. -/
theorem bind_of_eq_some {α β : Type} {step : Option α} {a : α} (h : step = some a)
    (next : α → Option β) : (step >>= next) = next a := by
  rw [h]
  rfl

/-- **A timestamp of RFC 3339 is read as the moment it means.** -/
theorem read?_of_rfc3339 (standard : Rfc3339 s l offset) : read? s = l.earlier? offset := by
  obtain ⟨year, month, day, date, separator, hour, minute, second, fraction, clock, zone⟩ :=
    standard
  rename_i sep _ _
  have separated : ∀ rest, expectSeparator (sep :: rest) = some rest := by
    intro rest
    rcases separator with rfl | rfl <;> rfl
  refine (bind_of_eq_some (year.scan _) _).trans ?_
  refine (bind_of_eq_some rfl _).trans ?_
  refine (bind_of_eq_some (month.scan _) _).trans ?_
  refine (bind_of_eq_some rfl _).trans ?_
  refine (bind_of_eq_some (day.scan _) _).trans ?_
  refine (bind_of_eq_some (separated _) _).trans ?_
  refine (bind_of_eq_some (hour.scan _) _).trans ?_
  refine (bind_of_eq_some rfl _).trans ?_
  refine (bind_of_eq_some (minute.scan _) _).trans ?_
  refine (bind_of_eq_some rfl _).trans ?_
  refine (bind_of_eq_some (second.scan _) _).trans ?_
  cases fraction with
  | whole =>
      dsimp only
      rw [List.nil_append]
      split
      · rename_i r
        have point := zone.stopsAt '.' rfl
        cases point
      · refine (bind_of_eq_some zone.scan _).trans ?_
        exact (bind_of_eq_some date _).trans (bind_of_eq_some clock _)
  | parts digits nonempty =>
      have stops := zone.stopsAt.imp fun c (stop : (!c.isDigit && c != '.') = true) =>
        (Bool.and_eq_true_iff.mp stop).1
      refine (bind_of_eq_some (scanFraction_digits digits nonempty stops) _).trans ?_
      refine (bind_of_eq_some zone.scan _).trans ?_
      exact (bind_of_eq_some date _).trans (bind_of_eq_some clock _)

/-! ## Writing -/

theorem digits_padded (positive : 0 < width) (fits : n < 10 ^ width) :
    Digits width n (padded width n) :=
  ⟨fun _ => isDigit_of_mem_padded, length_padded_of_lt positive fits, ofDigitChars_padded width n⟩

theorem fraction_printFraction {nano : Nat} (below : nano < 1000000000) :
    Fraction (printFraction nano) nano := by
  rcases printFraction_cases below with
    ⟨rfl, written⟩ | ⟨-, width, n, positive, narrow, fits, value, written⟩
  · rw [written]
    exact .whole
  · have length := length_padded_of_lt positive fits
    have few : (padded width n).take 9 = padded width n :=
      List.take_of_length_le (by omega)
    have fraction := Fraction.parts (s := padded width n) (fun _ => isDigit_of_mem_padded)
      (List.length_pos_iff.mp (by omega))
    rwa [few, ofDigitChars_padded, length, value, ← written] at fraction

theorem rfc3339_printChars (plain : 0 ≤ t.date.year ∧ t.date.year ≤ 9999) :
    Rfc3339 t.printChars t 0 := by
  obtain ⟨date, clock⟩ := t
  have months := date.month_inRange
  have days := date.day_inRange
  have last := daysInMonth_le date.year date.month
  have hours := clock.hour_lt
  have minutes := clock.minute_lt
  have seconds := clock.second_le
  simp only at plain
  have written : printYear date.year = padded 4 date.year.toNat := by
    simp [printYear, plain]
  have year : ((date.year.toNat : Nat) : Int) = date.year := Int.toNat_of_nonneg plain.1
  simp only [printChars, written, List.append_assoc, List.cons_append]
  exact .text (digits_padded (by decide) (by omega)) (digits_padded (by decide) (by omega))
    (digits_padded (by decide) (by omega)) (year.symm ▸ date.ofYmd?_parts) (.inl rfl)
    (digits_padded (by decide) (by omega)) (digits_padded (by decide) (by omega))
    (digits_padded (by decide) (by omega)) (fraction_printFraction clock.nano_lt)
    clock.of?_parts (.utc (.inl rfl))

theorem read?_printChars (plain : 0 ≤ t.date.year ∧ t.date.year ≤ 9999) :
    read? t.printChars = some t := by
  rw [read?_of_rfc3339 (rfc3339_printChars plain), earlier?_zero]

/-- Other years are written with a sign. -/
theorem exists_printChars_eq_cons (long : ¬ (0 ≤ t.date.year ∧ t.date.year ≤ 9999)) :
    ∃ sign rest, t.printChars = sign :: rest ∧ sign.isDigit = false := by
  unfold printChars printYear
  rw [if_neg (by simpa using long)]
  split
  · exact ⟨'-', _, rfl, rfl⟩
  · exact ⟨'+', _, rfl, rfl⟩

theorem Rfc3339.exists_eq_cons (standard : Rfc3339 s l offset) :
    ∃ c rest, s = c :: rest ∧ c.isDigit = true := by
  cases standard with
  | text year =>
      obtain ⟨c, r, split⟩ := List.exists_cons_of_length_pos (Nat.lt_of_lt_of_eq (by decide)
        year.length.symm)
      exact ⟨c, _, by rw [split, List.cons_append], year.digits c (split ▸ List.mem_cons_self)⟩

theorem rfc3339_printChars_iff :
    (∃ l offset, Rfc3339 t.printChars l offset) ↔ 0 ≤ t.date.year ∧ t.date.year ≤ 9999 := by
  constructor
  · rintro ⟨l, offset, standard⟩
    by_contra long
    obtain ⟨sign, rest, written, plain⟩ := exists_printChars_eq_cons long
    obtain ⟨c, rest', split, digit⟩ := standard.exists_eq_cons
    rw [written] at split
    cases split
    rw [digit] at plain
    cases plain
  · exact fun plain => ⟨t, 0, rfc3339_printChars plain⟩

/-- A sign is not read. -/
theorem read?_printChars_of_long (long : ¬ (0 ≤ t.date.year ∧ t.date.year ≤ 9999)) :
    read? t.printChars = none := by
  obtain ⟨sign, rest, written, plain⟩ := exists_printChars_eq_cons long
  have number : scanNumber 4 4 (sign :: rest) = none := by
    simp [scanNumber, plain]
  rw [written, read?, number]
  rfl

end FilterQuery.Calendar.Timestamp
