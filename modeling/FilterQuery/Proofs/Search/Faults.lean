/-
# FilterQuery.Proofs.Search.Faults -- the first fault is the one that is reported

What is wrong with an expression is, node by node, what is wrong with its nodes
(`failures_eq_nodes`), and an expression fails with the first of it (`head?_failures`).  The order
of the nodes is that of the translation: the number of the parts is looked at before the parts, and
no part is looked at behind one that fails.
-/
import FilterQuery.Proofs.Search.Stages
import FilterQuery.Search.Faults

namespace FilterQuery.QueryBuilder

variable {b : QueryBuilder} {e : Expression} {failure : Failure}

/-! ## Nodes -/

/-- What is wrong with a node, if anything is. -/
def offence? (b : QueryBuilder) : Expression → Option Failure
  | .comparison field op value => b.refusal? ⟨field, op, value⟩
  | .combination kind parts =>
    if parts.length < 2 then some (.malformed ⟨0, .tooFewParts kind parts.length⟩) else none

theorem offence?_eq_some_iff : b.offence? e = some failure ↔ b.Offends e failure := by
  constructor
  · intro h
    cases e with
    | comparison field op value => exact .refused (refusal?_eq_some_iff.mp h)
    | combination kind parts =>
        rw [offence?] at h
        split at h
        · rename_i few
          obtain rfl := Option.some.inj h
          exact .short few
        · cases h
  · intro h
    cases h with
    | short few => rw [offence?, if_pos few]
    | refused refused => exact refusal?_eq_some_iff.mpr refused

theorem offence?_eq_none_iff : b.offence? e = none ↔ b.Accepts e := by
  rw [Option.eq_none_iff_forall_ne_some]
  exact forall_congr' fun failure => not_congr offence?_eq_some_iff

mutual
theorem failures_eq_nodes : (e : Expression) → b.failures e = e.nodes.filterMap b.offence?
  | .comparison field op value => by
      rw [failures, Expression.nodes, List.filterMap_cons, List.filterMap_nil, offence?]
      cases b.refusal? ⟨field, op, value⟩ <;> rfl
  | .combination kind parts => by
      rw [failures, Expression.nodes, List.filterMap_cons, offence?, failuresAll_eq_nodes parts]
      split <;> rfl

theorem failuresAll_eq_nodes : (es : List Expression) →
    b.failuresAll es = (Expression.nodesAll es).filterMap b.offence?
  | [] => rfl
  | e :: es => by
      rw [failuresAll, Expression.nodesAll, List.filterMap_append, failures_eq_nodes e,
        failuresAll_eq_nodes es]
end

/-! ## Translation -/

theorem fault?_accept : fault? (b.translator.accept e) = e.nodes.findSome? b.offence? := by
  rw [← List.head?_filterMap, ← failures_eq_nodes, head?_failures]
  simp only [Translator.accept, translator]
  cases b.clauseOf e <;> rfl

/-- A translator takes what has no fault in it, and otherwise reports the first fault, a
combination before its parts and the parts from left to right. -/
theorem translator_reportsFirst (b : QueryBuilder) (e : Expression) : b.ReportsFirst e where
  ok_iff := by
    rw [← fault?_eq_none_iff, fault?_accept, List.findSome?_eq_none_iff]
    simp only [offence?_eq_none_iff]
  error_iff failure := by
    rw [← fault?_eq_some_iff, fault?_accept, List.findSome?_eq_some_iff]
    simp only [offence?_eq_none_iff, offence?_eq_some_iff]
    constructor
    · rintro ⟨before, node, behind, split, offends, accepted⟩
      exact ⟨before, node, behind, split, accepted, offends⟩
    · rintro ⟨before, node, behind, split, accepted, offends⟩
      exact ⟨before, node, behind, split, offends, accepted⟩
  short kind parts failure offends := by
    cases offends with
    | short => exact ⟨_, rfl, rfl, rfl⟩

end FilterQuery.QueryBuilder
