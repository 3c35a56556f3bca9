/-
# FilterQuery.Proofs.Schema.Validity -- definitions are refused for a fault, and only for one

`Definition.check` walks a definition and stops at the first fault.  Where it comes to
the end there is none (`checkAll_eq_ok_iff`): every definition that it passes is sound,
and no two side by side have the same name.  Each of its questions has one lemma that says
when the answer is yes.
-/
import FilterQuery.Proofs.Schema.Branch

namespace FilterQuery.Definition

variable {d : Definition} {ds above : List Definition} {seen : List String} {path : String}
  {parent : Option String}

/-! ## One question each -/

theorem checkName_eq_ok_iff :
    d.checkName seen path = .ok () ↔ isName d.name.toList = true ∧ d.name ∉ seen := by
  rw [checkName, refuse_eq_ok_iff, refuse_eq_ok_iff]
  simp

theorem isIndexName_iff {s : String} :
    isIndexName s.toList = true ↔
      s ≠ "" ∧ ∀ c ∈ s.toList, Text.isBlank c = false ∧ c ≠ '.' := by
  simp [isIndexName]

theorem checkIndexName_eq_ok_iff :
    d.checkIndexName path = .ok () ↔ ∀ name ∈ d.indexName, name ≠ "" ∧
      ∀ c ∈ name.toList, Text.isBlank c = false ∧ c ≠ '.' := by
  unfold checkIndexName
  cases d.indexName with
  | none => simp
  | some name => simp [← isIndexName_iff]

theorem checkPayload_eq_ok_iff :
    d.checkPayload path = .ok () ↔ (d.kind = .object → d.fields ≠ []) ∧
      (d.kind = .enumeration → d.values ≠ []) ∧
      (d.kind = .number → ∀ format ∈ d.format, (NumberFormat.ofText? format).isSome) := by
  unfold checkPayload
  cases kind : d.kind with
  | number =>
      cases format : d.format with
      | none => simp
      | some text => simp [Option.isSome_iff_ne_none]
  | _ => simp

theorem check_eq (parent : Option String) (seen : List String) (d : Definition) :
    check parent seen d = (do
      d.checkName seen (joinPath parent d.name)
      d.checkIndexName (joinPath parent d.name)
      d.checkPayload (joinPath parent d.name)
      if d.kind = .object then checkAll (some (joinPath parent d.name)) [] d.fields
      else if d.fields.isEmpty then .ok ()
      else .error (.fieldsOutsideObject (joinPath parent d.name))) := by
  cases d
  rw [check]

/-! ## All of them -/

/-- The names in front of a definition are those that were seen before the list and those of the
definitions in front of it. -/
theorem checkAll_eq_ok_iff_of_check
    (each : ∀ d ∈ ds, ∀ seen, check parent seen d = .ok () ↔
      d.name ∉ seen ∧ ∀ b ∈ branches above d, b.tip.Sound) :
    checkAll parent seen ds = .ok () ↔ (∀ d ∈ ds, d.name ∉ seen) ∧
      (ds.map (·.name)).Nodup ∧ ∀ b ∈ branchesAll above ds, b.tip.Sound := by
  induction ds generalizing seen with
  | nil => simp [checkAll, branchesAll]
  | cons d ds ih =>
      rw [checkAll, then_eq_ok_iff, each d List.mem_cons_self,
        ih fun d member => each d (List.mem_cons_of_mem _ member)]
      rw [List.forall_mem_cons, List.map_cons, List.nodup_cons, branchesAll, List.forall_mem_append]
      -- The names of the others are new behind `d.name :: seen`: they differ from that of `d`,
      -- which is half of being distinct, and were not seen before.
      constructor
      · rintro ⟨⟨fresh, sound⟩, others, distinct, soundAll⟩
        have first : d.name ∉ ds.map (·.name) := by
          intro again
          obtain ⟨e, member, same⟩ := List.mem_map.mp again
          exact others e member (same ▸ List.mem_cons_self)
        have before : ∀ e ∈ ds, e.name ∉ seen := fun e member again =>
          others e member (List.mem_cons_of_mem _ again)
        exact ⟨⟨fresh, before⟩, ⟨first, distinct⟩, sound, soundAll⟩
      · rintro ⟨⟨fresh, before⟩, ⟨first, distinct⟩, sound, soundAll⟩
        refine ⟨⟨fresh, sound⟩, ?_, distinct, soundAll⟩
        intro e member again
        rcases List.mem_cons.mp again with same | again
        · exact first (same ▸ List.mem_map_of_mem member)
        · exact before e member again

theorem check_eq_ok_iff (parent : Option String) (seen : List String) (above : List Definition) :
    check parent seen d = .ok () ↔
      d.name ∉ seen ∧ ∀ b ∈ branches above d, b.tip.Sound := by
  induction d using Definition.induction generalizing parent seen above with
  | step d ih =>
      have inside : checkAll (some (joinPath parent d.name)) [] d.fields = .ok () ↔
          (d.fields.map (·.name)).Nodup ∧
            ∀ b ∈ branchesAll (above ++ [d]) d.fields, b.tip.Sound := by
        rw [checkAll_eq_ok_iff_of_check fun f own seen => ih f own _ seen (above ++ [d])]
        simp
      rw [check_eq, forall_branches_iff, then_eq_ok_iff, then_eq_ok_iff, then_eq_ok_iff,
        checkName_eq_ok_iff, checkIndexName_eq_ok_iff, checkPayload_eq_ok_iff]
      by_cases object : d.kind = .object
      · rw [if_pos object, inside]
        constructor
        · rintro ⟨⟨name, fresh⟩, indexName, ⟨fields, values, format⟩, distinct, sound⟩
          have filled := fields object
          have here : d.Sound :=
            ⟨name, indexName, ⟨fields, fun _ => object⟩, values, format, distinct⟩
          exact ⟨fresh, here, sound⟩
        · rintro ⟨fresh, here, sound⟩
          exact ⟨⟨here.name, fresh⟩, here.indexName, ⟨here.fields.mp, here.values, here.format⟩,
            here.distinct, sound⟩
      · rw [if_neg object]
        constructor
        · rintro ⟨⟨name, fresh⟩, indexName, ⟨fields, values, format⟩, none⟩
          have empty : d.fields = [] := by
            by_contra filled
            simp [filled] at none
          refine ⟨fresh, ⟨name, indexName, ?_, values, format, ?_⟩, ?_⟩
          · simp [object, empty]
          · simp [empty]
          · simp [empty, branchesAll]
        · rintro ⟨fresh, here, sound⟩
          have empty : d.fields = [] := by
            by_contra filled
            exact object (here.fields.mpr filled)
          refine ⟨⟨here.name, fresh⟩, here.indexName, ?_, ?_⟩
          · exact ⟨here.fields.mp, here.values, here.format⟩
          · simp [empty]

/-- The definitions of a schema are not refused exactly if all of them are sound and those on the
outermost level have different names. -/
theorem checkAll_eq_ok_iff :
    checkAll none [] ds = .ok () ↔
      (ds.map (·.name)).Nodup ∧ ∀ b ∈ branchesAll [] ds, b.tip.Sound := by
  rw [checkAll_eq_ok_iff_of_check fun d _ seen => check_eq_ok_iff none seen []]
  simp

end FilterQuery.Definition
