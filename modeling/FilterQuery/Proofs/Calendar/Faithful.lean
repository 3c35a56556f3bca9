/-
# FilterQuery.Proofs.Calendar.Faithful -- which fields are kept whole

A timestamp is read from fields in three ways (`read?_eq_some`): with its offset, without it, and
as a day alone.  What is read keeps the fields exactly if these are complete
(`faithful_iff_complete`).

The first two ways take a date and a time of day as they are, so the second one loses the offset;
with a count of seconds in their place both lead to the same moment.  The third way is for days,
which have neither of the other meanings (`local?_of_isDay`, `utc?_of_isDay`).
-/
import FilterQuery.Proofs.Calendar.Fields

namespace FilterQuery.Calendar.Fields

variable {f : Fields} {offset : Int} {l t : Timestamp}

/-! ## The three meanings -/

theorem read?_eq_some (h : f.read? = some t) :
    f.utc? = some t ∨ f.utc? = none ∧ (f.local? 0 = some t ∨
      f.local? 0 = none ∧ ∃ d, f.date = .ok d ∧ t = ⟨d, .midnight⟩) := by
  unfold read? at h
  cases utc : f.utc? with
  | some t' =>
      rw [utc] at h
      exact .inl h
  | none =>
      rw [utc] at h
      refine .inr ⟨rfl, ?_⟩
      cases here : f.local? 0 with
      | some t' =>
          rw [here] at h
          exact .inl h
      | none =>
          rw [here] at h
          obtain ⟨d, isDate, midnight⟩ := Option.map_eq_some_iff.mp h
          exact .inr ⟨rfl, d, toOption_eq_some_iff.mp isDate, midnight.symm⟩

theorem read?_of_utc? (utc : f.utc? = some t) : f.read? = some t := by
  rw [read?, utc]
  rfl

theorem read?_of_local? (utc : f.utc? = none) (here : f.local? 0 = some t) : f.read? = some t := by
  rw [read?, utc, here]
  rfl

/-- The first meaning, of a text that gives its offset. -/
theorem utc?_of_offset (given : f.get .offset = some offset) :
    f.utc? = some t ↔ (-1440 < offset ∧ offset < 1440) ∧
      ∃ l, f.local? offset = some l ∧ l.earlier? offset = some t := by
  have steps : f.utc? = (f.local? offset).bind fun l =>
      if -1440 < offset && offset < 1440 then l.earlier? offset else none := by
    unfold utc?
    rw [given]
    rfl
  rw [steps, Option.bind_eq_some_iff]
  constructor
  · rintro ⟨l, ahead, moved⟩
    split at moved
    · rename_i inDay
      exact ⟨by simpa using inDay, l, ahead, moved⟩
    · cases moved
  · rintro ⟨inDay, l, ahead, moved⟩
    exact ⟨l, ahead, by rw [if_pos (by simpa using inDay), moved]⟩

/-- Without an offset the first meaning is the second or none. -/
theorem utc?_of_no_offset (given : f.get .offset = none) :
    f.utc? = none ∨ f.utc? = f.local? 0 := by
  unfold utc?
  rw [given]
  cases f.get .unixSeconds with
  | none => exact .inl rfl
  | some n => exact .inr (by simp [Timestamp.earlier?_zero])

theorem utcOffset_of_given (given : f.get .offset = some offset) : f.utcOffset = offset := by
  rw [utcOffset, given, Option.getD_some]

theorem utcOffset_of_none (given : f.get .offset = none) : f.utcOffset = 0 := by
  rw [utcOffset, given, Option.getD_none]

theorem shownAs_self (t : Timestamp) : t.ShownAs t 0 :=
  ⟨by omega, rfl, rfl⟩

/-- A day has neither of the first two meanings. -/
theorem local?_of_isDay (day : f.IsDay) (offset : Int) : f.local? offset = none := by
  have clock : f.clock = .error .missing := by
    simp [clock, getNat, day .halfOfDay (.inl rfl)]
  have count : f.get .unixSeconds = none := day _ (.inl rfl)
  unfold local?
  rw [clock, count]
  split <;> simp_all

theorem utc?_of_isDay (day : f.IsDay) : f.utc? = none := by
  rcases utc?_of_no_offset (day _ (.inr rfl)) with none | same
  · exact none
  · rw [same, local?_of_isDay day]

theorem complete_of_faithful (h : f.read? = some t) (faithful : f.Faithful t) : f.Complete := by
  cases faithful.keeps with
  | day day _ => exact .day day
  | moment keeps shown =>
      rename_i l
      cases given : f.get .offset with
      | none =>
          rw [utcOffset_of_none given] at keeps
          exact .utc given keeps
      | some offset =>
          rw [utcOffset_of_given given] at keeps shown
          rcases read?_eq_some h with utc | ⟨utc, here | ⟨here, -⟩⟩
          · obtain ⟨⟨above, below⟩, l, ahead, moved⟩ := (utc?_of_offset given).mp utc
            exact .offset given above below ahead moved
          · by_cases whole : f.HasDateAndClock
            · -- The second meaning is the date and time of day themselves, so there was nothing to
              -- take away.
              obtain ⟨⟨d, date⟩, c, clock⟩ := whole
              obtain rfl := local?_of_date_clock date clock keeps
              obtain rfl := local?_of_date_clock date clock here
              have zero : offset = 0 := by
                have := shown.seconds
                omega
              subst zero
              exact .offset given (by decide) (by decide) keeps (Timestamp.earlier?_zero _)
            · exact .counted given whole keeps here
          · exact .day (faithful.day_of_midnight utc here)

/-- Where no date and time of day follow, an offset is not kept. -/
theorem not_keeps_of_offset (given : f.get .offset = some offset) (ahead : f.local? offset = none) :
    ¬ f.Keeps t := by
  rintro (⟨shown, -⟩ | ⟨day, -⟩)
  · rw [utcOffset_of_given given, ahead] at shown
    cases shown
  · cases (day .offset (.inr rfl)).symm.trans given

/-- The first meaning keeps an offset. -/
theorem faithful_of_utc? (given : f.get .offset = some offset) (utc : f.utc? = some t) :
    f.Faithful t := by
  obtain ⟨⟨above, below⟩, l, ahead, moved⟩ := (utc?_of_offset given).mp utc
  rw [← utcOffset_of_given given] at above below ahead moved
  refine ⟨.moment ahead (Timestamp.shownAs_of_earlier? above below moved), fun none => ?_⟩
  cases none.symm.trans utc

/-- The second meaning keeps the fields if it is the moment that they show with their offset. -/
theorem faithful_of_local? (ahead : f.local? f.utcOffset = some l) (shown : t.ShownAs l f.utcOffset)
    (here : f.local? 0 = some t) : f.Faithful t := by
  refine ⟨.moment ahead shown, fun _ none => ?_⟩
  cases none.symm.trans here

theorem faithful_of_complete (h : f.read? = some t) (complete : f.Complete) : f.Faithful t := by
  cases complete with
  | day day =>
      rcases read?_eq_some h with utc | ⟨-, here | ⟨-, d, date, rfl⟩⟩
      · cases utc.symm.trans (utc?_of_isDay day)
      · cases here.symm.trans (local?_of_isDay day 0)
      · exact ⟨.day day date, fun _ _ => day⟩
  | utc given here =>
      rename_i l
      have read : f.read? = some l := by
        rcases utc?_of_no_offset given with none | same
        · exact read?_of_local? none here
        · exact read?_of_utc? (same.trans here)
      obtain rfl := Option.some.inj (h.symm.trans read)
      have own := utcOffset_of_none given
      exact faithful_of_local? (own ▸ here) (own ▸ shownAs_self t) here
  | offset given above below ahead moved =>
      have utc := (utc?_of_offset given).mpr ⟨⟨above, below⟩, _, ahead, moved⟩
      obtain rfl := Option.some.inj (h.symm.trans (read?_of_utc? utc))
      exact faithful_of_utc? given utc
  | counted given partly ahead here =>
      have own := utcOffset_of_given given
      cases utc : f.utc? with
      | some moved =>
          obtain rfl := Option.some.inj (h.symm.trans (read?_of_utc? utc))
          exact faithful_of_utc? given utc
      | none =>
          obtain rfl := Option.some.inj (h.symm.trans (read?_of_local? utc here))
          exact faithful_of_local? (own ▸ ahead) (own ▸ shownAs_of_counted partly ahead here) here

/-- **What is read keeps the fields if and only if they are complete.** -/
theorem faithful_iff_complete (h : f.read? = some t) : f.Faithful t ↔ f.Complete :=
  ⟨complete_of_faithful h, faithful_of_complete h⟩

end FilterQuery.Calendar.Fields
