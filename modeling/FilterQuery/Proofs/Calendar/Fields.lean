/-
# FilterQuery.Proofs.Calendar.Fields -- what follows from the fields of a date text

A number that is noted is the number that its quantity has from then on, and all others are as
they were (`eq_set_of_put?`).  So a date that is found is the date of the year and of the day of
the year that are given, in whatever way it is found (`date_of_year_ordinal`), and a time of day is
what its parts say (`clock_eq_ok`).

A count of seconds fills in what is missing of date and time of day: they are those of the count
(`moment_of_fillFromCount?`), and so the moment is the same at all offsets (`shownAs_of_counted`).
-/
import FilterQuery.Proofs.Calendar.Days
import FilterQuery.Proofs.Steps

namespace FilterQuery.Calendar.Fields

variable {f g : Fields} {q : Quantity} {n offset : Int} {d : Date} {c : Clock} {l t : Timestamp}

/-! ## Numbers that are noted -/

/-- The fields with a number given for one more quantity. -/
def set (f : Fields) (q : Quantity) (n : Int) : Fields :=
  ⟨fun q' => if q' = q then some n else f.get q'⟩

@[simp] theorem get_empty (q : Quantity) : empty.get q = none := rfl

@[simp] theorem get_set (f : Fields) (q q' : Quantity) (n : Int) :
    (f.set q n).get q' = if q' = q then some n else f.get q' := rfl

theorem put?_of_free (free : f.get q = none) (n : Int) :
    f.put? q n = some (f.set q n) := by
  simp [put?, free, set]

theorem putIn?_of_free (free : f.get q = none) {low high : Int}
    (inRange : low ≤ n ∧ n ≤ high) : f.putIn? q low high n = some (f.set q n) := by
  simp [putIn?, inRange, put?_of_free free]

theorem putHour?_of_free (half : f.get .halfOfDay = none)
    (hour : f.get .hourOfHalf = none) (inRange : 0 ≤ n ∧ n ≤ 23) :
    f.putHour? n = some ((f.set .halfOfDay (n / 12)).set .hourOfHalf (n % 12)) := by
  have next : (f.set .halfOfDay (n / 12)).get .hourOfHalf = none := by simp [hour]
  simp [putHour?, inRange, put?_of_free half, put?_of_free next]

theorem set_of_given (given : f.get q = some n) : f.set q n = f := by
  obtain ⟨get⟩ := f
  simp only [set, Fields.mk.injEq]
  funext q'
  split
  · rename_i here
    rw [here]
    exact given.symm
  · rfl

/-- A number that is there already changes nothing. -/
theorem eq_set_of_put? (h : f.put? q n = some g) : g = f.set q n := by
  unfold put? at h
  split at h
  · exact (Option.some.inj h).symm
  · rename_i m given
    split at h
    · rename_i same
      rw [← Option.some.inj h, set_of_given (same ▸ given)]
    · cases h

theorem eq_set_of_putIn? {low high : Int} (h : f.putIn? q low high n = some g) :
    g = f.set q n := by
  unfold putIn? at h
  split at h
  · exact eq_set_of_put? h
  · cases h

theorem eq_set_of_putHour? (h : f.putHour? n = some g) :
    g = (f.set .halfOfDay (n / 12)).set .hourOfHalf (n % 12) := by
  unfold putHour? at h
  split at h
  · obtain ⟨half, first, second⟩ := Option.bind_eq_some_iff.mp h
    rw [eq_set_of_put? second, eq_set_of_put? first]
  · cases h

/-! ## Dates and times of day -/

theorem checked_eq_ok_iff {found : Option Date} {agreement : Date → Bool} :
    f.checked found agreement = .ok d ↔
      found = some d ∧ agreement d = true ∧ f.agrees .quarter d.quarter = true := by
  unfold checked
  cases found with
  | none => simp
  | some e =>
      simp only [Option.some.injEq]
      constructor
      · intro h
        split at h
        · rename_i agreed
          cases h
          exact ⟨rfl, by simpa using agreed⟩
        · cases h
      · rintro ⟨rfl, agreed⟩
        rw [if_pos (by simpa using agreed)]

theorem resolveYear_of_year {y : Int} {century rest year : Option Int}
    (h : resolveYear (some y) century rest = .ok year) : year = some y := by
  unfold resolveYear at h
  split at h
  · exact (Except.ok.inj h).symm
  · rename_i same _
    split at h
    · cases h
    · split at h
      · rw [← Except.ok.inj h, ← Option.some.inj same]
      · cases h
  all_goals
    rename_i missing
    cases missing

/-- A year and a day of the year leave one date, however it is found. -/
theorem date_of_year_ordinal {y : Int} {days : Nat} (year : f.get .year = some y)
    (ordinal : f.get .ordinal = some (days : Int)) (h : f.date = .ok d) :
    d.year = y ∧ d.ordinal = days := by
  have given : f.getNat .ordinal = some days := by simp [getNat, ordinal]
  unfold date at h
  obtain ⟨year', resolved, h⟩ := bind_eq_ok_iff.mp h
  obtain ⟨isoYear, -, h⟩ := bind_eq_ok_iff.mp h
  rw [year] at resolved
  rw [resolveYear_of_year resolved, given] at h
  split at h
  · rename_i first _ _
    obtain ⟨found, agreed, -⟩ := checked_eq_ok_iff.mp h
    have sameYear := (Date.of_ofYmd? found).1
    have sameDay : f.agrees .ordinal d.ordinal = true := by
      simp only [agreesOrdinal, Bool.and_eq_true] at agreed
      exact agreed.2.1.1
    simp only [agrees, ordinal, Option.all_some, beq_iff_eq, Int.natCast_inj] at sameDay
    exact ⟨sameYear.trans (Option.some.inj first).symm, sameDay.symm⟩
  · obtain ⟨found, -⟩ := checked_eq_ok_iff.mp h
    exact Date.ofOrdinal?_eq_some found

theorem clock_eq_ok (h : f.clock = .ok c) : ∃ half hour minute,
    f.getNat .halfOfDay = some half ∧ f.getNat .hourOfHalf = some hour ∧
    f.getNat .minute = some minute ∧ c.hour = 12 * half + hour ∧ c.minute = minute ∧
    c.second = (f.getNat .second).getD 0 ∧ c.nano = (f.getNat .nano).getD 0 := by
  unfold clock at h
  split at h
  · rename_i half hour minute isHalf isHour isMinute
    split at h
    · cases h
    · split at h
      · rename_i clock isClock
        cases h
        obtain ⟨sameHour, sameMinute, sameSecond, sameNano⟩ := Clock.of_of? isClock
        exact ⟨half, hour, minute, isHalf, isHour, isMinute, sameHour, sameMinute, sameSecond,
          sameNano⟩
      · cases h
  · cases h

/-! ## Counts of seconds -/

/-- The fields with the year, the day of the year and the minute of a timestamp. -/
def withMinute (f : Fields) (t : Timestamp) : Fields :=
  ((((f.set .year t.date.year).set .ordinal t.date.ordinal).set
    .halfOfDay ((t.clock.hour : Int) / 12)).set .hourOfHalf ((t.clock.hour : Int) % 12)).set
    .minute t.clock.minute

theorem get_withMinute (f : Fields) (t : Timestamp) (q : Quantity) :
    (f.withMinute t).get q = match q with
      | .year => some t.date.year
      | .ordinal => some (t.date.ordinal : Int)
      | .halfOfDay => some ((t.clock.hour : Int) / 12)
      | .hourOfHalf => some ((t.clock.hour : Int) % 12)
      | .minute => some (t.clock.minute : Int)
      | q => f.get q := by
  cases q <;> simp [withMinute]

theorem eq_withMinute (h : (do
      let f ← f.put? .year t.date.year
      let f ← f.put? .ordinal t.date.ordinal
      let f ← f.putHour? t.clock.hour
      f.put? .minute t.clock.minute) = some g) : g = f.withMinute t := by
  obtain ⟨withYear, year, h⟩ := Option.bind_eq_some_iff.mp h
  obtain ⟨withDay, day, h⟩ := Option.bind_eq_some_iff.mp h
  obtain ⟨withHour, hour, minute⟩ := Option.bind_eq_some_iff.mp h
  rw [eq_set_of_put? minute, eq_set_of_putHour? hour, eq_set_of_put? day, eq_set_of_put? year,
    withMinute]

/-- The count of a second that is numbered 60, if `n` is that of the second after it. -/
def countOf (f : Fields) (n : Int) : Int :=
  if f.get .second = some 60 ∧ n % 60 = 0 then n - 1 else n

/-- The number of the second in its minute. -/
def secondOf (f : Fields) (n : Int) : Int :=
  if f.get .second = some 60 then 60 else n % 60

/-- A count fills in the minute it falls in and the second; a second that is numbered 60 stays as
it is. -/
theorem eq_of_fillFromCount? (h : f.fillFromCount? n = some g) : ∃ t : Timestamp,
    t.unixSeconds = f.countOf n ∧ min 59 (t.clock.second : Int) = min 59 (f.secondOf n) ∧
    g = (f.set .second (f.secondOf n)).withMinute t := by
  unfold fillFromCount? at h
  obtain ⟨counted, isCounted, h⟩ := Option.bind_eq_some_iff.mp h
  obtain ⟨seconds, second⟩ := Timestamp.unixSeconds_ofUnixSeconds? isCounted
  by_cases leap : f.get .second = some 60
  · have sixty : f.secondOf n = 60 := if_pos leap
    rw [sixty, set_of_given leap]
    by_cases last : counted.clock.second = 59
    · simp only [if_pos leap, if_pos last, bind, Option.bind] at h
      refine ⟨counted, ?_, by omega, eq_withMinute h⟩
      rw [seconds, countOf, if_neg (by omega)]
    by_cases first : counted.clock.second = 0
    · simp only [if_pos leap, if_neg last, if_pos first, bind] at h
      obtain ⟨⟨same, before⟩, step, h⟩ := Option.bind_eq_some_iff.mp h
      obtain ⟨_, isBefore, pair⟩ := Option.map_eq_some_iff.mp step
      cases pair
      obtain ⟨earlier, second'⟩ := Timestamp.unixSeconds_ofUnixSeconds? isBefore
      refine ⟨before, ?_, by omega, eq_withMinute h⟩
      rw [earlier, countOf, if_pos ⟨leap, by omega⟩]
    · simp [if_pos leap, if_neg last, if_neg first] at h
  · have plain : f.secondOf n = n % 60 := if_neg leap
    simp only [if_neg leap, bind] at h
    obtain ⟨⟨noted, same⟩, step, h⟩ := Option.bind_eq_some_iff.mp h
    obtain ⟨_, isNoted, pair⟩ := Option.map_eq_some_iff.mp step
    cases pair
    have shown : (counted.clock.second : Int) = n % 60 := by omega
    rw [eq_set_of_put? isNoted, shown] at h
    refine ⟨counted, ?_, by omega, plain ▸ eq_withMinute h⟩
    rw [seconds, countOf, if_neg (by simp [leap])]

/-- The date and the time of day that are filled in from a count are those of the count. -/
theorem moment_of_fillFromCount? (h : f.fillFromCount? n = some g) (date : g.date = .ok d)
    (clock : g.clock = .ok c) :
    (Timestamp.mk d c).unixSeconds = f.countOf n ∧ c.second = (f.secondOf n).toNat ∧
    c.nano = (f.getNat .nano).getD 0 := by
  obtain ⟨t, seconds, second, rfl⟩ := eq_of_fillFromCount? h
  obtain ⟨year, ordinal⟩ :=
    date_of_year_ordinal (by rw [get_withMinute]) (by rw [get_withMinute]) date
  obtain ⟨half, hour, minute, isHalf, isHour, isMinute, sameHour, sameMinute, sameSecond,
    sameNano⟩ := clock_eq_ok clock
  simp only [getNat, get_withMinute, Option.map_some, Option.some.injEq] at isHalf isHour isMinute
  simp only [getNat, get_withMinute, get_set, if_true, reduceCtorEq, if_false, Option.map_some,
    Option.getD_some] at sameSecond sameNano
  have sameDay : d.dayNumber = t.date.dayNumber := by
    rw [Date.dayNumber, Date.dayNumber, year, ordinal]
  have sameTime : c.minutes = t.clock.minutes := by
    unfold Clock.minutes
    omega
  have full : min 59 c.second = min 59 t.clock.second := by omega
  refine ⟨?_, sameSecond, sameNano⟩
  rw [← seconds, Timestamp.unixSeconds_eq, Timestamp.unixSeconds_eq]
  simp only [sameDay, sameTime, full]

/-! ## Local timestamps -/

/-- With a date and a time of day, a count of seconds is only compared. -/
theorem local?_of_date_clock (date : f.date = .ok d) (clock : f.clock = .ok c)
    (h : f.local? offset = some l) : l = ⟨d, c⟩ := by
  unfold local? at h
  rw [date, clock] at h
  simp only at h
  split at h
  · split at h
    · exact (Option.some.inj h).symm
    · cases h
  · exact (Option.some.inj h).symm

/-- What is missing of date and time of day is filled in from a count of seconds, which is taken
to the clocks that the text is written for. -/
theorem counted_of_local? (partly : ¬ f.HasDateAndClock) (h : f.local? offset = some l) :
    ∃ n filled, f.get .unixSeconds = some n ∧ f.fillFromCount? (n + 60 * offset) = some filled ∧
      filled.date = .ok l.date ∧ filled.clock = .ok l.clock := by
  unfold local? at h
  split at h
  · rename_i date clock isDate isClock
    exact absurd ⟨⟨date, isDate⟩, clock, isClock⟩ partly
  · cases h
  · cases h
  · split at h
    · cases h
    · rename_i n given
      obtain ⟨filled, isFilled, h⟩ := Option.bind_eq_some_iff.mp h
      obtain ⟨date, isDate, h⟩ := Option.bind_eq_some_iff.mp h
      obtain ⟨clock, isClock, h⟩ := Option.bind_eq_some_iff.mp h
      cases h
      exact ⟨n, filled, given, isFilled, toOption_eq_some_iff.mp isDate,
        toOption_eq_some_iff.mp isClock⟩

/-- A count of seconds is the same moment whatever the offset. -/
theorem shownAs_of_counted (partly : ¬ f.HasDateAndClock) (ahead : f.local? offset = some l)
    (here : f.local? 0 = some t) : t.ShownAs l offset := by
  obtain ⟨n, filled, given, isFilled, date, clock⟩ := counted_of_local? partly ahead
  obtain ⟨m, filled', given', isFilled', date', clock'⟩ := counted_of_local? partly here
  obtain rfl : n = m := Option.some.inj (given.symm.trans given')
  obtain ⟨seconds, second, nano⟩ := moment_of_fillFromCount? isFilled date clock
  obtain ⟨seconds', second', nano'⟩ := moment_of_fillFromCount? isFilled' date' clock'
  have sameMinute : (n + 60 * offset) % 60 = (n + 60 * 0) % 60 := by omega
  have sameSecond : f.secondOf (n + 60 * offset) = f.secondOf (n + 60 * 0) := by
    rw [secondOf, secondOf, sameMinute]
  have shifted : f.countOf (n + 60 * 0) = f.countOf (n + 60 * offset) - 60 * offset := by
    rw [countOf, countOf, sameMinute]
    split <;> omega
  exact ⟨seconds'.trans (shifted.trans (by rw [← seconds])), by rw [second', second, sameSecond],
    nano'.trans nano.symm⟩

end FilterQuery.Calendar.Fields
