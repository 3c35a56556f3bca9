/-
# FilterQuery.Proofs.Calendar.Scan -- a text gives what its pattern asks for

A text that matches a pattern gives a number for each quantity that the elements of the pattern
stand for, and for no other (`given_iff_of_scan`).  Only fractions of a second are left out of
this, since a text may match with or without them.

One element adds its own quantities to those that are given before it (`adds_of_scanItem`), and
a pattern adds those of its elements, one behind the other (`adds_of_scan`).
-/
import FilterQuery.Proofs.Calendar.Fields

namespace FilterQuery.Calendar

variable {f g h : Fields} {q : Quantity} {n : Int} {s rest : List Char}

/-! ## Numbers added to others -/

namespace Fields

/-- `g` gives what `f` gives and the quantities listed, whatever both say of fractions. -/
def Adds (f g : Fields) (given : List Quantity) : Prop :=
  ∀ q, q ≠ .nano → ((g.get q).isSome ↔ (f.get q).isSome ∨ q ∈ given)

theorem Adds.refl (f : Fields) : f.Adds f [] :=
  fun _ _ => by simp

theorem Adds.trans {first second : List Quantity} (left : f.Adds g first)
    (right : g.Adds h second) : f.Adds h (first ++ second) := by
  intro q part
  rw [right q part, left q part, List.mem_append, or_assoc]

theorem adds_set (f : Fields) (q : Quantity) (n : Int) : f.Adds (f.set q n) [q] := by
  intro q' _
  by_cases here : q' = q <;> simp [here]

theorem adds_set_nano (f : Fields) (n : Int) : f.Adds (f.set .nano n) [] := by
  intro q part
  simp [part]

theorem adds_of_put? (noted : f.put? q n = some g) : f.Adds g [q] :=
  eq_set_of_put? noted ▸ adds_set f q n

theorem adds_of_putIn? {low high : Int} (noted : f.putIn? q low high n = some g) : f.Adds g [q] :=
  eq_set_of_putIn? noted ▸ adds_set f q n

theorem adds_of_putHour? (noted : f.putHour? n = some g) :
    f.Adds g [.halfOfDay, .hourOfHalf] :=
  eq_set_of_putHour? noted ▸ (adds_set f .halfOfDay _).trans (adds_set _ .hourOfHalf _)

end Fields

open Fields

theorem Numeral.adds_of_put? {what : Numeral} (noted : what.put? f n = some g) :
    f.Adds g what.quantities := by
  cases what
  case century | yearOfCentury | isoYearOfCentury | nano => exact Fields.adds_of_put? noted
  case year | isoYear | quarter | month | day | weekFromSunday | weekFromMonday | isoWeek
      | ordinal | minute | second | unixSeconds => exact adds_of_putIn? noted
  case hour => exact adds_of_putHour? noted
  case weekdayFromZero | weekdayFromOne | hour12 =>
    simp only [Numeral.put?] at noted
    split at noted
    · exact Fields.adds_of_put? noted
    · cases noted

/-! ## Elements -/

/-- What is noted for the element, with the text behind it. -/
theorem adds_of_noted {behind : List Char} (step : (f.put? q n).map (·, behind) = some (g, rest)) :
    f.Adds g [q] := by
  obtain ⟨_, noted, pair⟩ := Option.map_eq_some_iff.mp step
  cases pair
  exact Fields.adds_of_put? noted

/-- A fraction adds nothing that counts. -/
theorem adds_of_noted_nano {behind : List Char}
    (step : (f.put? .nano n).map (·, behind) = some (g, rest)) : f.Adds g [] := by
  obtain ⟨_, noted, pair⟩ := Option.map_eq_some_iff.mp step
  cases pair
  exact eq_set_of_put? noted ▸ adds_set_nano f n

theorem adds_of_scanItem {item : Item} (step : scanItem f s item = some (g, rest)) :
    f.Adds g item.quantities := by
  cases item with
  | literal text =>
      obtain ⟨_, _, pair⟩ := Option.map_eq_some_iff.mp step
      cases pair
      exact .refl f
  | blanks | zoneName =>
      cases step
      exact .refl f
  | numeral what =>
      obtain ⟨⟨n, behind⟩, -, step⟩ := Option.bind_eq_some_iff.mp step
      obtain ⟨_, noted, pair⟩ := Option.map_eq_some_iff.mp step
      cases pair
      exact Numeral.adds_of_put? noted
  | monthName long | weekdayName long | halfOfDay | offset lenient =>
      obtain ⟨⟨n, behind⟩, -, step⟩ := Option.bind_eq_some_iff.mp step
      exact adds_of_noted step
  | fraction =>
      simp only [scanItem] at step
      split at step
      · obtain ⟨⟨n, behind⟩, -, step⟩ := Option.bind_eq_some_iff.mp step
        exact adds_of_noted_nano step
      · cases step
        exact .refl f
  | fixedFraction point width =>
      simp only [scanItem] at step
      split at step
      · obtain ⟨⟨n, behind⟩, -, step⟩ := Option.bind_eq_some_iff.mp step
        exact adds_of_noted_nano step
      · cases step
        exact .refl f
      · obtain ⟨⟨n, behind⟩, -, step⟩ := Option.bind_eq_some_iff.mp step
        exact adds_of_noted step
  | relaxedTimestamp | invalid => cases step

theorem adds_of_scanItems {items : List Item} (steps : scanItems f s items = some (g, rest)) :
    f.Adds g (items.flatMap Item.quantities) := by
  induction items generalizing f s with
  | nil =>
      cases steps
      exact .refl _
  | cons item items ih =>
      obtain ⟨⟨noted, behind⟩, step, steps⟩ := Option.bind_eq_some_iff.mp steps
      exact (adds_of_scanItem step).trans (ih steps)

theorem adds_of_scanRelaxed (step : scanRelaxed f s = some (g, rest)) :
    f.Adds g Item.relaxedTimestamp.quantities := by
  obtain ⟨⟨dated, behind⟩, date, step⟩ := Option.bind_eq_some_iff.mp step
  obtain ⟨behind, -, step⟩ := Option.bind_eq_some_iff.mp step
  obtain ⟨⟨timed, behind⟩, time, step⟩ := Option.bind_eq_some_iff.mp step
  have offset : timed.Adds g [.offset] := by
    simp only at step
    split at step
    · exact adds_of_noted step
    · obtain ⟨⟨n, behind⟩, -, step⟩ := Option.bind_eq_some_iff.mp step
      exact adds_of_noted step
  exact ((adds_of_scanItems date).trans (adds_of_scanItems time)).trans offset

theorem adds_of_scan {items : List Item} (steps : scan f s items = some g) :
    f.Adds g (items.flatMap Item.quantities) := by
  induction items generalizing f s with
  | nil =>
      unfold scan at steps
      split at steps
      · cases steps
        exact .refl _
      · cases steps
  | cons item items ih =>
      unfold scan at steps
      split at steps
      · rename_i relaxed
        obtain ⟨⟨noted, behind⟩, step, steps⟩ := Option.bind_eq_some_iff.mp steps
        exact relaxed ▸ (adds_of_scanRelaxed step).trans (ih steps)
      · obtain ⟨⟨noted, behind⟩, step, steps⟩ := Option.bind_eq_some_iff.mp steps
        exact (adds_of_scanItem step).trans (ih steps)

/-- **A text gives the quantities that its pattern stands for, and no others.** -/
theorem given_iff_of_scan {items : List Item} (steps : scan .empty s items = some f)
    (part : q ≠ .nano) : (f.get q).isSome ↔ ∃ item ∈ items, q ∈ item.quantities := by
  rw [adds_of_scan steps q part, List.mem_flatMap]
  simp

/-- What is read of a text is read from the fields that it gives. -/
theorem readBy?_eq (pattern : String) (s : List Char) :
    readBy? pattern s = (scan .empty s (Item.itemsOf pattern.toList)).bind Fields.read? := by
  simp only [readBy?, readOffset?, readLocal?, readDay?, Option.bind_eq_bind]
  cases scan .empty s (Item.itemsOf pattern.toList) with
  | none => rfl
  | some f =>
      simp only [Option.bind_some, Fields.read?]
      cases f.date <;> rfl

end FilterQuery.Calendar
