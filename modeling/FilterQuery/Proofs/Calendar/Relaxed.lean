/-
# FilterQuery.Proofs.Calendar.Relaxed -- the text of a timestamp, read leniently

Writing a timestamp and reading the text by the lenient rules gives the timestamp
again (`readRelaxed?_print`), whatever its year: a year that is written with a
sign is read with all of its digits.

The text is followed from left to right.  The items of the date and of the time
take what was written for them (`scanItems_relaxedDate`, `scanItems_relaxedTime`),
so that the whole text gives the fields `Fields.ofTimestamp`, and what these mean
is the timestamp (`Fields.utc?_ofTimestamp`).
-/
import FilterQuery.Calendar.Pattern
import FilterQuery.Proofs.Calendar.Digits
import FilterQuery.Proofs.Calendar.Fields

namespace FilterQuery.Calendar

open FilterQuery.Text Timestamp

/-! ## The fields of a timestamp -/

namespace Fields

/-- Year, month and day of a date. -/
def ofDate (d : Date) : Fields :=
  ((empty.set .year d.year).set .month d.month).set .day d.day

/-- The fields with the whole seconds of a time of day. -/
def withSeconds (f : Fields) (c : Clock) : Fields :=
  (((f.set .halfOfDay ((c.hour : Int) / 12)).set .hourOfHalf ((c.hour : Int) % 12)).set
    .minute c.minute).set .second c.second

/-- The fields with a time of day; no fraction of a second is given if there is none. -/
def withClock (f : Fields) (c : Clock) : Fields :=
  if c.nano = 0 then f.withSeconds c else (f.withSeconds c).set .nano c.nano

/-- What the text of a timestamp gives. -/
def ofTimestamp (t : Timestamp) : Fields :=
  ((ofDate t.date).withClock t.clock).set .offset 0

theorem get_ofTimestamp (t : Timestamp) (q : Quantity) :
    (ofTimestamp t).get q = match q with
      | .year => some t.date.year
      | .month => some (t.date.month : Int)
      | .day => some (t.date.day : Int)
      | .halfOfDay => some ((t.clock.hour : Int) / 12)
      | .hourOfHalf => some ((t.clock.hour : Int) % 12)
      | .minute => some (t.clock.minute : Int)
      | .second => some (t.clock.second : Int)
      | .nano => if t.clock.nano = 0 then none else some (t.clock.nano : Int)
      | .offset => some 0
      | _ => none := by
  unfold ofTimestamp withClock withSeconds ofDate
  split <;> cases q <;> simp_all

/-- Year, month and day are enough for a date, and nothing else is given that could disagree. -/
theorem date_ofTimestamp (t : Timestamp) : (ofTimestamp t).date = .ok t.date := by
  simp [date, get_ofTimestamp, resolveYear, getNat, Date.ofYmd?_parts, checked, agreesIso,
    agreesOrdinal, agrees, agreesIfAny, bind, Except.bind]

theorem clock_ofTimestamp (t : Timestamp) : (ofTimestamp t).clock = .ok t.clock := by
  have hour : 12 * ((t.clock.hour : Int) / 12).toNat + ((t.clock.hour : Int) % 12).toNat =
      t.clock.hour := by
    omega
  have nano : ((ofTimestamp t).getNat .nano).getD 0 = t.clock.nano := by
    by_cases whole : t.clock.nano = 0 <;> simp [getNat, get_ofTimestamp, whole]
  have second : (ofTimestamp t).getNat .second = some t.clock.second := by
    simp [getNat, get_ofTimestamp]
  simp only [clock, second, nano]
  simp [getNat, get_ofTimestamp, hour, Clock.of?_parts]

theorem utc?_ofTimestamp (t : Timestamp) : (ofTimestamp t).utc? = some t := by
  have count : (ofTimestamp t).get .unixSeconds = none := by simp [get_ofTimestamp]
  have offset : (ofTimestamp t).get .offset = some 0 := by simp [get_ofTimestamp]
  have here : (ofTimestamp t).local? 0 = some t := by
    simp [local?, date_ofTimestamp, clock_ofTimestamp, count]
  simp [utc?, offset, here, earlier?_zero]

end Fields

/-! ## Numbers -/

/-- In front of a digit no sign is looked for. -/
theorem scanNumeral_of_digit (what : Numeral) {c : Char} (digit : c.isDigit = true)
    (rest : List Char) :
    scanNumeral what (c :: rest) = scanDigits (what.width.getD (c :: rest).length) (c :: rest) := by
  have notSign : ∀ sign : Char, sign.isDigit = false → c ≠ sign := by
    rintro sign other rfl
    rw [digit] at other
    cases other
  unfold scanNumeral
  rw [dropBlank_cons_of_not_blank (not_isBlank_of_isDigit digit)]
  split
  · rename_i first
    exact absurd (List.cons.inj first).1 (notSign '-' (by decide))
  · rename_i first
    exact absurd (List.cons.inj first).1 (notSign '+' (by decide))
  · rfl

theorem scanNumeral_padded {what : Numeral} {width n : Nat} (limit : what.width = some width)
    (positive : 0 < width) (fits : n < 10 ^ width) (rest : List Char) :
    scanNumeral what (padded width n ++ rest) = some ((n : Int), rest) := by
  obtain ⟨c, digits, split, digit⟩ := exists_padded_eq_cons width n
  have number : scanNumber 1 width (c :: (digits ++ rest)) = some (n, rest) := by
    simpa [split] using scanNumber_padded positive positive fits rest
  rw [split, List.cons_append, scanNumeral_of_digit what digit, limit, Option.getD_some,
    scanDigits, number]
  rfl

/-- Behind a sign all digits are taken. -/
theorem scanDigits_padded (n : Nat) {rest : List Char}
    (stops : StopsAt (fun c => !c.isDigit) rest) :
    scanDigits (padded 4 n ++ rest).length (padded 4 n ++ rest) = some ((n : Int), rest) := by
  rw [scanDigits, scanNumber_append (fun _ => isDigit_of_mem_padded) (length_padded_pos 4 n)
    (by simp) (.inr stops), ofDigitChars_padded]
  rfl

theorem scanNumeral_year (year : Int) {rest : List Char}
    (stops : StopsAt (fun c => !c.isDigit) rest) :
    scanNumeral .year (printYear year ++ rest) = some (year, rest) := by
  by_cases plain : 0 ≤ year ∧ year ≤ 9999
  · have number : scanNumeral .year (padded 4 year.toNat ++ rest) =
        some ((year.toNat : Int), rest) :=
      scanNumeral_padded rfl (by decide) (by omega) rest
    rw [Int.toNat_of_nonneg plain.1] at number
    simpa [printYear, plain] using number
  · by_cases negative : year < 0
    · have magnitude : -(year.natAbs : Int) = year := by omega
      have written : printYear year = '-' :: padded 4 year.natAbs := by
        simp [printYear, plain, negative]
      rw [written, List.cons_append, scanNumeral, dropBlank_cons_of_not_blank (by decide)]
      simp only [Numeral.isSigned, scanDigits_padded year.natAbs stops, Option.map_some, magnitude]
    · have magnitude : (year.natAbs : Int) = year := by omega
      have written : printYear year = '+' :: padded 4 year.natAbs := by
        simp [printYear, plain, negative]
      rw [written, List.cons_append, scanNumeral, dropBlank_cons_of_not_blank (by decide)]
      simp only [Numeral.isSigned, scanDigits_padded year.natAbs stops, magnitude]

/-! ## Items -/

theorem scanItems_numeral {f f' : Fields} {s rest : List Char} {what : Numeral} {n : Int}
    (number : scanNumeral what s = some (n, rest)) (noted : what.put? f n = some f')
    (items : List Item) :
    scanItems f s (.numeral what :: items) = scanItems f' rest items := by
  simp [scanItems, scanItem, number, noted]

theorem scanItems_literal (f : Fields) (c : Char) (rest : List Char) (items : List Item) :
    scanItems f (c :: rest) (.literal [c] :: items) = scanItems f rest items := by
  simp [scanItems, scanItem, after?]

/-- Blanks may stand where there are none. -/
theorem scanItems_blanks (f : Fields) {c : Char} (visible : isBlank c = false) (rest : List Char)
    (items : List Item) :
    scanItems f (c :: rest) (.blanks :: items) = scanItems f (c :: rest) items := by
  simp [scanItems, scanItem, dropBlank_cons_of_not_blank visible]

theorem scanItems_fraction {f : Fields} (free : f.get .nano = none) {nano : Nat}
    (below : nano < 1000000000) (rest : List Char) (items : List Item) :
    scanItems f (printFraction nano ++ 'Z' :: rest) (.fraction :: items) =
      scanItems (if nano = 0 then f else f.set .nano nano) ('Z' :: rest) items := by
  have stops : StopsAt (fun c => !c.isDigit) ('Z' :: rest) := by simp
  rcases printFraction_cases below with
    ⟨rfl, written⟩ | ⟨part, width, n, positive, narrow, fits, value, written⟩
  · simp [printFraction, scanItems, scanItem]
  · have number := scanFraction_padded positive narrow fits stops
    rw [value] at number
    simp [written, part, scanItems, scanItem, number, Fields.put?_of_free free]

/-! ## The whole text -/

theorem scanItems_relaxedDate (d : Date) (rest : List Char) :
    scanItems .empty (printYear d.year ++ '-' :: (padded 2 d.month ++
      '-' :: (padded 2 d.day ++ rest))) relaxedDate = some (.ofDate d, rest) := by
  have years := d.year_inRange
  have months := d.month_inRange
  have days := d.day_inRange
  have last := daysInMonth_le d.year d.month
  simp only [minYear, maxYear] at years
  have year : Numeral.put? .empty d.year .year = some (Fields.empty.set .year d.year) :=
    Fields.putIn?_of_free rfl (by omega)
  have month : Numeral.put? (Fields.empty.set .year d.year) d.month .month =
      some ((Fields.empty.set .year d.year).set .month d.month) :=
    Fields.putIn?_of_free (by simp) (by omega)
  have day : Numeral.put? ((Fields.empty.set .year d.year).set .month d.month) d.day .day =
      some (.ofDate d) :=
    Fields.putIn?_of_free (by simp) (by omega)
  rw [relaxedDate, scanItems_numeral (scanNumeral_year d.year (by simp)) year,
    scanItems_blanks _ (by decide), scanItems_literal,
    scanItems_numeral (scanNumeral_padded rfl (by decide) (by omega) _) month,
    scanItems_blanks _ (by decide), scanItems_literal,
    scanItems_numeral (scanNumeral_padded rfl (by decide) (by omega) _) day, scanItems]

theorem scanItems_relaxedTime {f : Fields}
    (free : ∀ q ∈ [Quantity.halfOfDay, .hourOfHalf, .minute, .second, .nano], f.get q = none)
    (c : Clock) (rest : List Char) :
    scanItems f (padded 2 c.hour ++ ':' :: (padded 2 c.minute ++ ':' :: (padded 2 c.second ++
      (printFraction c.nano ++ 'Z' :: rest)))) relaxedTime = some (f.withClock c, 'Z' :: rest) := by
  have hours := c.hour_lt
  have minutes := c.minute_lt
  have seconds := c.second_le
  simp only [List.forall_mem_cons] at free
  obtain ⟨freeHalf, freeHour, freeMinute, freeSecond, freeNano, -⟩ := free
  have hour : Numeral.put? f c.hour .hour =
      some ((f.set .halfOfDay ((c.hour : Int) / 12)).set .hourOfHalf ((c.hour : Int) % 12)) :=
    Fields.putHour?_of_free freeHalf freeHour (by omega)
  have minute : ∀ g : Fields, g.get .minute = none →
      Numeral.put? g c.minute .minute = some (g.set .minute c.minute) :=
    fun _ free => Fields.putIn?_of_free free (by omega)
  have second : ∀ g : Fields, g.get .second = none →
      Numeral.put? g c.second .second = some (g.set .second c.second) :=
    fun _ free => Fields.putIn?_of_free free (by omega)
  rw [relaxedTime,
    scanItems_numeral (scanNumeral_padded rfl (by decide) (by omega) _) hour,
    scanItems_blanks _ (by decide), scanItems_literal,
    scanItems_numeral (scanNumeral_padded rfl (by decide) (by omega) _)
      (minute _ (by simp [freeMinute])),
    scanItems_blanks _ (by decide), scanItems_literal,
    scanItems_numeral (scanNumeral_padded rfl (by decide) (by omega) _)
      (second _ (by simp [freeSecond])),
    scanItems_fraction (by simp [freeNano]) c.nano_lt, scanItems_blanks _ (by decide), scanItems]
  rfl

theorem scanRelaxed_printChars (t : Timestamp) :
    scanRelaxed .empty t.printChars = some (.ofTimestamp t, []) := by
  have date := scanItems_relaxedDate t.date ('T' :: (padded 2 t.clock.hour ++
    ':' :: (padded 2 t.clock.minute ++ ':' :: (padded 2 t.clock.second ++
      (printFraction t.clock.nano ++ ['Z'])))))
  have time := scanItems_relaxedTime (f := .ofDate t.date) (by simp [Fields.ofDate]) t.clock []
  have free : ((Fields.ofDate t.date).withClock t.clock).get .offset = none := by
    unfold Fields.withClock Fields.withSeconds Fields.ofDate
    split <;> simp
  have word : dropWord? ['u', 't', 'c'] ['Z'] = none := by decide
  have zulu : scanOffset true false ['Z'] = some (0, []) := rfl
  simp only [scanRelaxed, printChars, List.append_assoc, List.cons_append, date, bind,
    Option.bind, expectSeparator, beq_self_eq_true, Bool.true_or, if_true, time, word, zulu,
    Fields.put?_of_free free, Option.map_some]
  rfl

/-- **A timestamp's text is read back**, signed years, fractions and leap seconds included. -/
theorem readRelaxed?_print (t : Timestamp) : readRelaxed? t.print.toList = some t := by
  rw [Timestamp.print, String.toList_ofList, readRelaxed?, scanRelaxed_printChars]
  exact Fields.utc?_ofTimestamp t

end FilterQuery.Calendar
