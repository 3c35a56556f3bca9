/-
# FilterQuery.Proofs.Value.Dates -- what is kept of a date, and how it is written

A raw text that is no timestamp of its own is read by the first pattern that it matches.  Nothing
that it says of time and offset is lost if and only if what it gives is complete
(`ofRaw_date_faithful_iff`): a day alone, or a date and a time of day with an offset, if any, that
can be taken away.

The text of a timestamp is read as the same timestamp again if and only if its year, in UTC, has
four digits (`ofRaw_print_date_iff`).
-/
import FilterQuery.Clause.Elasticsearch
import FilterQuery.Proofs.Calendar.Faithful
import FilterQuery.Proofs.Calendar.Scan
import FilterQuery.Proofs.Calendar.Standard
import FilterQuery.Proofs.Value.Typing

namespace FilterQuery.Value

open FilterQuery.Calendar

variable {settings : Settings} {field : Field} {op : Comparator} {raw : String} {v : Value}
  {own : Option String} {t : Timestamp}

theorem ofRaw_date_iff (kind : field.kind = .date own) :
    ofRaw settings field op raw = .ok v ↔
      date? (own.toList ++ settings.datePatterns) raw = some v := by
  simp only [ofRaw, kind, require_eq_ok_iff]

/-- A timestamp of its own needs no pattern. -/
theorem ofRaw_of_read? (kind : field.kind = .date own)
    (read : Timestamp.read? raw.toList = some t) :
    ofRaw settings field op raw = .ok (.date t) := by
  rw [ofRaw_date_iff kind, date?, read]

/-- The pattern of the field comes first. -/
theorem ofRaw_of_readBy? {pattern : String} (kind : field.kind = .date (some pattern))
    (other : Timestamp.read? raw.toList = none) (read : readBy? pattern raw.toList = some t) :
    ofRaw settings field op raw = .ok (.date t) := by
  rw [ofRaw_date_iff kind, date?, other]
  simp [read]

/-! ## Times and offsets -/

/-- A raw text for a field with dates, other than a timestamp of its own, is read by the first
pattern that it matches.  It gives just the quantities that the pattern stands for.  The timestamp
keeps all that they say of time and offset, and midnight is taken for days alone, if and only if
they are complete. -/
theorem ofRaw_date_faithful_iff (kind : field.kind = .date own)
    (other : Timestamp.read? raw.toList = none) (h : ofRaw settings field op raw = .ok v) :
    ∃ before pattern behind f t, v = .date t ∧
      own.toList ++ settings.datePatterns = before ++ pattern :: behind ∧
      (∀ earlier ∈ before, readBy? earlier raw.toList = none) ∧
      scan .empty raw.toList (Item.itemsOf pattern.toList) = some f ∧
      (∀ q, q ≠ .nano →
        ((f.get q).isSome ↔ ∃ item ∈ Item.itemsOf pattern.toList, q ∈ item.quantities)) ∧
      (f.Faithful t ↔ f.Complete) := by
  have read := (ofRaw_date_iff kind).mp h
  unfold date? at read
  rw [other] at read
  obtain ⟨t, found, rfl⟩ := Option.map_eq_some_iff.mp read
  obtain ⟨before, pattern, behind, split, matched, earlier⟩ := List.findSome?_eq_some_iff.mp found
  rw [readBy?_eq] at matched
  obtain ⟨f, given, meant⟩ := Option.bind_eq_some_iff.mp matched
  exact ⟨before, pattern, behind, f, t, rfl, split, earlier, given,
    fun q part => given_iff_of_scan given part, Fields.faithful_iff_complete meant⟩

/-- A date and a time of day with an offset: two hours are taken away. -/
theorem ofRaw_date_faithful_two_hours :
    let pattern := "%Y-%m-%d %H:%M %z"
    let field : Field := ⟨"created", "created", .date (some pattern), false, true⟩
    let raw := "2024-05-01 12:30 +02:00"
    let t : Timestamp := ⟨⟨2024, 5, 1, by decide, by decide⟩,
      ⟨10, 30, 0, 0, by decide, by decide, by decide, by decide⟩⟩
    field.kind = .date (some pattern) ∧ Timestamp.read? raw.toList = none ∧
      ofRaw .default field .equal raw = .ok (.date t) ∧
      ∃ f, scan .empty raw.toList (Item.itemsOf pattern.toList) = some f ∧
        f.get .offset = some 120 ∧ f.Complete ∧ f.Faithful t := by
  intro pattern field raw t
  have other : Timestamp.read? raw.toList = none := by decide +kernel
  have read : readBy? pattern raw.toList = some t := by decide +kernel
  have made : ofRaw .default field .equal raw = .ok (.date t) := ofRaw_of_readBy? rfl other read
  refine ⟨rfl, other, made, ?_⟩
  obtain ⟨before, first, behind, f, t', same, split, earlier, given, -, faithful⟩ :=
    ofRaw_date_faithful_iff rfl other made
  have own : first = pattern := by
    cases before with
    | nil => exact (List.cons.inj split).1.symm
    | cons p before =>
        have before : readBy? pattern raw.toList = none :=
          earlier pattern ((List.cons.inj split).1 ▸ List.mem_cons_self)
        rw [read] at before
        cases before
  rw [own] at given
  have parts : (scan .empty raw.toList (Item.itemsOf pattern.toList)).map
      (fun f => (f.get .offset, (f.local? 120).bind (·.earlier? 120))) =
        some (some 120, some t) := by
    decide +kernel
  rw [given, Option.map_some, Option.some.injEq, Prod.mk.injEq] at parts
  obtain ⟨l, ahead, moved⟩ := Option.bind_eq_some_iff.mp parts.2
  have complete : f.Complete := .offset parts.1 (by decide) (by decide) ahead moved
  exact ⟨f, given, parts.1, complete, Value.date.inj same ▸ faithful.mpr complete⟩

/-- An offset behind a day is read and dropped: the day is taken for one in UTC. -/
theorem ofRaw_date_offset_dropped :
    let pattern := "%Y-%m-%d%z"
    let field : Field := ⟨"created", "created", .date (some pattern), false, true⟩
    let raw := "2024-05-01+02:00"
    let t : Timestamp := ⟨⟨2024, 5, 1, by decide, by decide⟩, .midnight⟩
    Timestamp.read? raw.toList = none ∧ ofRaw .default field .equal raw = .ok (.date t) ∧
      ∃ f, scan .empty raw.toList (Item.itemsOf pattern.toList) = some f ∧
        f.get .offset = some 120 ∧ ¬ f.Faithful t := by
  intro pattern field raw t
  have other : Timestamp.read? raw.toList = none := by decide +kernel
  have read : readBy? pattern raw.toList = some t := by decide +kernel
  have parts : (scan .empty raw.toList (Item.itemsOf pattern.toList)).map
      (fun f => (f.get .offset, f.local? 120)) = some (some 120, none) := by
    decide +kernel
  obtain ⟨f, given, parts⟩ := Option.map_eq_some_iff.mp parts
  obtain ⟨offset, ahead⟩ := Prod.mk.inj parts
  exact ⟨other, ofRaw_of_readBy? rfl other read, f, given, offset,
    fun faithful => Fields.not_keeps_of_offset offset ahead faithful.keeps⟩

/-! ## Texts of timestamps -/

/-- The text of a date that a field takes is one of RFC 3339, and is taken as the same date again,
if and only if the year in UTC has four digits.  Texts of other years are none of RFC 3339, and are
not read as such.  The text is the same in clauses. -/
theorem ofRaw_print_date_iff (h : ofRaw settings field op raw = .ok (.date t)) :
    (Value.date t).toJson = .text (Value.date t).print ∧
    (Timestamp.Rfc3339 (Value.date t).print.toList t 0 ∧
        ofRaw settings field op (Value.date t).print = .ok (.date t) ↔
      0 ≤ t.date.year ∧ t.date.year ≤ 9999) ∧
    (¬ (0 ≤ t.date.year ∧ t.date.year ≤ 9999) →
      (∀ l offset, ¬ Timestamp.Rfc3339 (Value.date t).print.toList l offset) ∧
      Timestamp.read? (Value.date t).print.toList = none) := by
  have text : (Value.date t).print.toList = t.printChars := String.toList_ofList
  obtain ⟨own, kind⟩ : ∃ own, field.kind = .date own := by
    have takes : field.kind.Takes field.wildcards (.date t) := takes_of_ofRaw h
    cases kind : field.kind <;> rw [kind] at takes <;> cases takes
    exact ⟨_, rfl⟩
  rw [text]
  refine ⟨rfl, ⟨?_, ?_⟩, ?_⟩
  · rintro ⟨standard, -⟩
    exact Timestamp.rfc3339_printChars_iff.mp ⟨t, 0, standard⟩
  · intro plain
    refine ⟨Timestamp.rfc3339_printChars plain, (ofRaw_date_iff kind).mpr ?_⟩
    rw [date?, text, Timestamp.read?_printChars plain]
  · intro long
    refine ⟨fun l offset standard => long ?_, Timestamp.read?_printChars_of_long long⟩
    exact Timestamp.rfc3339_printChars_iff.mp ⟨l, offset, standard⟩

/-- A leap second with a fraction, at an offset. -/
theorem ofRaw_print_date_leap_second :
    let field : Field := ⟨"created", "created", .date none, false, true⟩
    let t : Timestamp := ⟨⟨2016, 12, 31, by decide, by decide⟩,
      ⟨23, 59, 60, 123000000, by decide, by decide, by decide, by decide⟩⟩
    ofRaw .default field .less "2016-12-31T18:59:60.123-05:00" = .ok (.date t) ∧
      (Value.date t).print = "2016-12-31T23:59:60.123Z" ∧
      Timestamp.Rfc3339 (Value.date t).print.toList t 0 ∧
      ofRaw .default field .less (Value.date t).print = .ok (.date t) := by
  intro field t
  have made : ofRaw .default field .less "2016-12-31T18:59:60.123-05:00" = .ok (.date t) :=
    ofRaw_of_read? rfl (by decide +kernel)
  exact ⟨made, by decide +kernel, (ofRaw_print_date_iff made).2.1.mpr ⟨by decide, by decide⟩⟩

/-- An offset that leads to the year 10000: its text is no timestamp, and the field does not take
it. -/
theorem ofRaw_print_date_year_10000 :
    let field : Field := ⟨"created", "created", .date none, false, true⟩
    let t : Timestamp := ⟨⟨10000, 1, 1, by decide, by decide⟩,
      ⟨0, 59, 59, 0, by decide, by decide, by decide, by decide⟩⟩
    ofRaw .default field .equal "9999-12-31T23:59:59-01:00" = .ok (.date t) ∧
      (Value.date t).print = "+10000-01-01T00:59:59Z" ∧
      (∀ l offset, ¬ Timestamp.Rfc3339 (Value.date t).print.toList l offset) ∧
      ∀ v, ofRaw .default field .equal (Value.date t).print ≠ .ok v := by
  intro field t
  have written : (Value.date t).print = "+10000-01-01T00:59:59Z" := by decide +kernel
  refine ⟨ofRaw_of_read? rfl (by decide +kernel), written, fun l offset standard => ?_,
    fun v again => ?_⟩
  · have text : (Value.date t).print.toList = t.printChars := String.toList_ofList
    rw [text] at standard
    exact absurd (Timestamp.rfc3339_printChars_iff.mp ⟨l, offset, standard⟩) (by decide)
  · have unread : Timestamp.read? "+10000-01-01T00:59:59Z".toList = none := by decide +kernel
    have unmatched : Settings.default.datePatterns.findSome?
        (readBy? · "+10000-01-01T00:59:59Z".toList) = none := by
      decide +kernel
    rw [written, ofRaw_date_iff rfl, date?, unread] at again
    rw [Option.toList_none, List.nil_append] at again
    rw [unmatched] at again
    cases again

end FilterQuery.Value
