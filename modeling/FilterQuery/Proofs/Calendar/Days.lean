/-
# FilterQuery.Proofs.Calendar.Days -- days are numbered one by one

The day after a date has the next number and the day before it the one before
(`dayNumber_next?`, `dayNumber_previous?`), over the ends of months and years.  A date that
is found by its day of the year or by its number is the date with that day or number
(`ofOrdinal?_eq_some`, `dayNumber_ofDayNumber?`).

So taking an offset away from a timestamp moves it by that many minutes and leaves the
second and its fraction as they are (`shownAs_of_earlier?`), and the timestamp of a count of
seconds has that count (`unixSeconds_ofUnixSeconds?`).
-/
import FilterQuery.Calendar.Meaning

namespace FilterQuery.Calendar

/-! ## Months and years -/

theorem daysBefore_succ (year : Int) (month : Nat) :
    daysBefore year (month + 1) = daysBefore year month + daysInMonth year month := rfl

theorem dayBefore_eq (year : Int) : dayBefore year =
    365 * (year - 1) + (year - 1) / 4 - (year - 1) / 100 + (year - 1) / 400 - 719163 := rfl

theorem dayBefore_succ (year : Int) : dayBefore (year + 1) = dayBefore year + daysInYear year := by
  rw [dayBefore_eq, dayBefore_eq, Int.add_sub_cancel, daysInYear, isLeap]
  by_cases four : year % 4 = 0
  · by_cases century : year % 100 = 0
    · by_cases era : year % 400 = 0 <;> simp [four, century, era] <;> omega
    · simp [four, century]
      omega
  · simp [four]
    omega

theorem daysInMonth_le (year : Int) (month : Nat) : daysInMonth year month ≤ 31 := by
  unfold daysInMonth
  split <;> (try split) <;> omega

theorem daysBefore_december (year : Int) : daysBefore year 12 + 31 = daysInYear year := by
  unfold daysInYear
  cases leap : isLeap year <;> simp [daysBefore, daysInMonth, leap]

namespace Date

variable {d e : Date} {year : Int} {month day n : Nat}

theorem of_ofYmd? (h : ofYmd? year month day = some d) :
    d.year = year ∧ d.month = month ∧ d.day = day := by
  unfold ofYmd? at h
  split at h
  · cases h
    exact ⟨rfl, rfl, rfl⟩
  · cases h

theorem ofYmd?_parts (d : Date) : ofYmd? d.year d.month d.day = some d :=
  dif_pos ⟨d.year_inRange, d.day_inRange⟩

theorem dayNumber_of_ofYmd? (h : ofYmd? year month day = some d) :
    d.dayNumber = dayBefore year + (daysBefore year month + day : Nat) := by
  obtain ⟨rfl, rfl, rfl⟩ := of_ofYmd? h
  rfl

theorem dayNumber_eq (d : Date) :
    d.dayNumber = dayBefore d.year + (daysBefore d.year d.month + d.day : Nat) := rfl

theorem dayNumber_next? (h : d.next? = some e) : e.dayNumber = d.dayNumber + 1 := by
  have inMonth := d.day_inRange.2
  have inYear := d.month_inRange.2
  have here := dayNumber_eq d
  unfold next? at h
  split at h
  · have there := dayNumber_of_ofYmd? h
    omega
  · split at h
    · have there := dayNumber_of_ofYmd? h
      rw [daysBefore_succ] at there
      omega
    · -- The last day of December is the last of the year.
      have last : d.month = 12 := by omega
      have full : d.day = daysInMonth d.year d.month := by omega
      have december := daysBefore_december d.year
      have there := dayNumber_of_ofYmd? h
      have january : daysBefore (d.year + 1) 1 = 0 := rfl
      have length : daysInMonth d.year 12 = 31 := rfl
      rw [dayBefore_succ, january] at there
      rw [last, length] at full
      rw [last, full] at here
      omega

theorem dayNumber_previous? (h : d.previous? = some e) : e.dayNumber = d.dayNumber - 1 := by
  have inMonth := d.day_inRange.1
  have inYear := d.month_inRange.1
  have here := dayNumber_eq d
  unfold previous? at h
  split at h
  · have there := dayNumber_of_ofYmd? h
    omega
  · split at h
    · have there := dayNumber_of_ofYmd? h
      have before : daysBefore d.year d.month =
          daysBefore d.year (d.month - 1) + daysInMonth d.year (d.month - 1) := by
        rw [← daysBefore_succ, Nat.sub_add_cancel inYear]
      omega
    · have first : d.month = 1 := by omega
      have december := daysBefore_december (d.year - 1)
      have years := dayBefore_succ (d.year - 1)
      have there := dayNumber_of_ofYmd? h
      have january : daysBefore d.year 1 = 0 := rfl
      rw [Int.sub_add_cancel] at years
      rw [first, january] at here
      omega

/-! ## Days of the year -/

theorem findMonth_spec {months month' : Nat} (h : findMonth year n months month = (month', day)) :
    daysBefore year month' + day = daysBefore year month + n := by
  induction months generalizing n month with
  | zero =>
      cases h
      rfl
  | succ months ih =>
      unfold findMonth at h
      simp only at h
      split at h
      · cases h
        rfl
      · have := ih h
        rw [daysBefore_succ] at this
        omega

theorem ofOrdinal?_eq_some (h : ofOrdinal? year n = some d) : d.year = year ∧ d.ordinal = n := by
  unfold ofOrdinal? at h
  cases found : findMonth year n 12 1 with
  | mk month day =>
      rw [found] at h
      obtain ⟨rfl, rfl, rfl⟩ := of_ofYmd? h
      have january : daysBefore d.year 1 = 0 := rfl
      refine ⟨rfl, ?_⟩
      rw [ordinal, findMonth_spec found, january, Nat.zero_add]

/-- The days before a year, by cycles of 400, 100 and 4 years. -/
theorem dayBefore_cycles (era : Int) {century four single : Int}
    (centuries : 0 ≤ century ∧ century ≤ 3) (fours : 0 ≤ four ∧ four ≤ 24)
    (singles : 0 ≤ single ∧ single ≤ 3) :
    dayBefore (400 * era + 100 * century + 4 * four + single + 1) =
      146097 * era + 36524 * century + 1461 * four + 365 * single - 719163 := by
  rw [dayBefore_eq]
  omega

theorem dayNumber_ofDayNumber? {n : Int} (h : ofDayNumber? n = some d) : d.dayNumber = n := by
  unfold ofDayNumber? at h
  simp only at h
  generalize era : (n + 719162) / 146097 = e at h
  generalize inCycle : (n + 719162) % 146097 = r at h
  generalize century : min 3 (r / 36524) = c at h
  generalize four : (r - 36524 * c) / 1461 = f at h
  generalize inFour : (r - 36524 * c) % 1461 = m at h
  generalize single : min 3 (m / 365) = y at h
  obtain ⟨sameYear, sameDay⟩ := ofOrdinal?_eq_some h
  have centuries : 0 ≤ c ∧ c ≤ 3 := by omega
  have fours : 0 ≤ f ∧ f ≤ 24 := by omega
  have singles : 0 ≤ y ∧ y ≤ 3 := by omega
  have days := dayBefore_cycles e centuries fours singles
  rw [dayNumber, sameYear, sameDay, days]
  omega

end Date

/-! ## Timestamps -/

theorem Clock.of_of? {hour minute second nano : Nat} {c : Clock}
    (h : Clock.of? hour minute second nano = some c) :
    c.hour = hour ∧ c.minute = minute ∧ c.second = second ∧ c.nano = nano := by
  unfold Clock.of? at h
  split at h
  · cases h
    exact ⟨rfl, rfl, rfl, rfl⟩
  · cases h

theorem Clock.of?_parts (c : Clock) : of? c.hour c.minute c.second c.nano = some c :=
  dif_pos ⟨c.hour_lt, c.minute_lt, c.second_le, c.nano_lt⟩

namespace Timestamp

variable {t t' : Timestamp}

theorem unixSeconds_eq (t : Timestamp) : t.unixSeconds = 86400 * t.date.dayNumber +
    (60 * t.clock.minutes + min 59 t.clock.second : Nat) := rfl

/-- Taking no offset away changes nothing. -/
theorem earlier?_zero (t : Timestamp) : t.earlier? 0 = some t := by
  obtain ⟨date, hour, minute, second, nano, hour_lt, minute_lt, second_le, nano_lt⟩ := t
  have total : Int.ofNat (60 * hour + minute) - 0 = ((60 * hour + minute : Nat) : Int) := by
    simp
  have sameHour : (((60 * hour + minute : Nat) : Int) % 1440).toNat / 60 = hour := by omega
  have sameMinute : (((60 * hour + minute : Nat) : Int) % 1440).toNat % 60 = minute := by omega
  have notBefore : ¬ ((60 * hour + minute : Nat) : Int) < 0 := by omega
  have notAfter : ¬ (1440 : Int) ≤ ((60 * hour + minute : Nat) : Int) := by omega
  simp only [earlier?, Clock.minutes, total, if_neg notBefore, if_neg notAfter, sameHour,
    sameMinute, Option.map_some]

/-- The day changes where the minute of the day leaves the day. -/
theorem earlier?_eq_some {offset : Int} (h : t.earlier? offset = some t') :
    let total := (t.clock.minutes : Int) - offset
    (if total < 0 then t.date.previous? else if 1440 ≤ total then t.date.next? else some t.date) =
      some t'.date ∧
    (t'.clock.minutes : Int) = total % 1440 ∧ t'.clock.second = t.clock.second ∧
    t'.clock.nano = t.clock.nano := by
  obtain ⟨date, moved, rfl⟩ := Option.map_eq_some_iff.mp h
  refine ⟨moved, ?_, rfl, rfl⟩
  simp only [Clock.minutes, Int.ofNat_eq_natCast]
  omega

/-- Taking an offset away leads to the moment at which it is shown. -/
theorem shownAs_of_earlier? {offset : Int} (above : -1440 < offset) (below : offset < 1440)
    (h : t.earlier? offset = some t') : t'.ShownAs t offset := by
  have minutes : t.clock.minutes < 1440 := by
    have := t.clock.hour_lt
    have := t.clock.minute_lt
    unfold Clock.minutes
    omega
  obtain ⟨moved, minute, second, nano⟩ := earlier?_eq_some h
  have days : t'.date.dayNumber = t.date.dayNumber + ((t.clock.minutes : Int) - offset) / 1440 := by
    split at moved
    · rw [Date.dayNumber_previous? moved]
      omega
    · split at moved
      · rw [Date.dayNumber_next? moved]
        omega
      · rw [← Option.some.inj moved]
        omega
  refine ⟨?_, second, nano⟩
  rw [unixSeconds_eq, unixSeconds_eq, days, second]
  omega

theorem unixSeconds_ofUnixSeconds? {n : Int} (h : ofUnixSeconds? n = some t) :
    t.unixSeconds = n ∧ t.clock.second = (n % 60).toNat := by
  unfold ofUnixSeconds? at h
  simp only at h
  split at h
  · rename_i date clock isDate isClock
    cases h
    obtain ⟨hour, minute, second, -⟩ := Clock.of_of? isClock
    rw [unixSeconds_eq]
    simp only [Date.dayNumber_ofDayNumber? isDate, Clock.minutes, hour, minute, second]
    omega
  · cases h

end Timestamp

end FilterQuery.Calendar
