/-
# FilterQuery.Proofs.Steps -- steps that can fail

A sequence of steps succeeds exactly if each of them does: one behind another
(`bind_eq_ok_iff`, `then_eq_ok_iff`), behind a condition (`refuse_eq_ok_iff`), or one for
each item of a list (`forM_eq_ok_iff`).  It fails with the fault of the first that does
(`bind_eq_error_iff`, `forM_eq_error_iff`); `fault?` is the fault of a step, if it has one, and
`toOption` its result (`toOption_eq_some_iff`).
-/
import Mathlib.Data.List.Basic

namespace FilterQuery

variable {ε α β : Type}

theorem bind_eq_ok_iff {m : Except ε α} {k : α → Except ε β} {b : β} :
    (m >>= k) = .ok b ↔ ∃ a, m = .ok a ∧ k a = .ok b := by
  cases m <;> simp [bind, Except.bind]

theorem bind_eq_error_iff {m : Except ε α} {k : α → Except ε β} {e : ε} :
    (m >>= k) = .error e ↔ m = .error e ∨ ∃ a, m = .ok a ∧ k a = .error e := by
  cases m <;> simp [bind, Except.bind]

/-- The fault of a step that fails. -/
def fault? : Except ε α → Option ε
  | .ok _ => none
  | .error e => some e

theorem fault?_eq_some_iff {m : Except ε α} {e : ε} : fault? m = some e ↔ m = .error e := by
  cases m <;> simp [fault?]

theorem fault?_eq_none_iff {m : Except ε α} : fault? m = none ↔ ∃ a, m = .ok a := by
  cases m <;> simp [fault?]

theorem toOption_eq_some_iff {m : Except ε α} {a : α} : m.toOption = some a ↔ m = .ok a := by
  cases m <;> simp [Except.toOption]

theorem then_eq_ok_iff {m : Except ε Unit} {next : Except ε β} {b : β} :
    (m >>= fun _ => next) = .ok b ↔ m = .ok () ∧ next = .ok b := by
  cases m <;> simp [bind, Except.bind]

theorem refuse_eq_ok_iff {refused : Prop} [Decidable refused] {e : ε} {m : Except ε α} {a : α} :
    (if refused then .error e else m) = .ok a ↔ ¬ refused ∧ m = .ok a := by
  split <;> simp [*]

theorem forM_eq_ok_iff {step : α → Except ε Unit} {items : List α} :
    items.forM step = .ok () ↔ ∀ a ∈ items, step a = .ok () := by
  induction items with
  | nil => exact ⟨fun _ _ member => absurd member List.not_mem_nil, fun _ => rfl⟩
  | cons a items ih =>
      rw [List.forM_eq_forM] at ih ⊢
      rw [List.forM_cons, then_eq_ok_iff, ih, List.forall_mem_cons]

theorem forM_eq_error_iff {step : α → Except ε Unit} {items : List α} {e : ε} :
    items.forM step = .error e ↔ ∃ before a behind, items = before ++ a :: behind ∧
      (∀ b ∈ before, step b = .ok ()) ∧ step a = .error e := by
  induction items with
  | nil =>
      constructor
      · intro impossible
        cases impossible
      · rintro ⟨before, a, behind, split, -⟩
        simp at split
  | cons a items ih =>
      rw [List.forM_eq_forM] at ih ⊢
      rw [List.forM_cons, bind_eq_error_iff, ih]
      constructor
      · rintro (here | ⟨_, passed, before, b, behind, rfl, all, failed⟩)
        · exact ⟨[], a, items, rfl, by simp, here⟩
        · exact ⟨a :: before, b, behind, rfl, List.forall_mem_cons.mpr ⟨passed, all⟩, failed⟩
      · rintro ⟨before, b, behind, split, all, failed⟩
        cases before with
        | nil =>
            obtain ⟨rfl, rfl⟩ := List.cons_eq_cons.mp split
            exact .inl failed
        | cons c before =>
            obtain ⟨rfl, rfl⟩ := List.cons_eq_cons.mp split
            obtain ⟨passed, others⟩ := List.forall_mem_cons.mp all
            exact .inr ⟨(), passed, before, b, behind, rfl, others, failed⟩

end FilterQuery
