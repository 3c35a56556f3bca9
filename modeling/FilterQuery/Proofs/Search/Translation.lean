/-
# FilterQuery.Proofs.Search.Translation -- when an expression has a clause

A comparison has one if its token and its text can be read, a combination if it has at
least two parts and each of them has a clause.
-/
import FilterQuery.Search.QueryBuilder
import Mathlib.Data.List.Forall2

namespace FilterQuery.QueryBuilder

variable {b : QueryBuilder} {c : Clause}

theorem comparisonClause_eq_ok_iff {token raw : String} {op : Comparator} :
    b.comparisonClause token op raw = .ok c ↔ ∃ field value, b.schema.resolve token = .ok field ∧
      Value.ofRaw b.settings field op raw = .ok value ∧
        c = .ofComparison field.indexPath op value := by
  unfold comparisonClause
  cases resolved : b.schema.resolve token with
  | error failure => simp
  | ok field =>
      cases read : Value.ofRaw b.settings field op raw with
      | error failure => simp [read]
      | ok value => simp [read, eq_comm]

theorem clausesOf_cons_eq_ok_iff {e : Expression} {es : List Expression} {cs : List Clause} :
    b.clausesOf (e :: es) = .ok cs ↔ ∃ first others,
      b.clauseOf e = .ok first ∧ b.clausesOf es = .ok others ∧ cs = first :: others := by
  rw [clausesOf]
  cases b.clauseOf e with
  | error failure => simp
  | ok first =>
      cases b.clausesOf es with
      | error failure => simp
      | ok others => simp [eq_comm]

/-- The clauses of a list are those of its items, one for each. -/
theorem clausesOf_eq_ok_iff {es : List Expression} {cs : List Clause} :
    b.clausesOf es = .ok cs ↔ List.Forall₂ (fun e c => b.clauseOf e = .ok c) es cs := by
  induction es generalizing cs with
  | nil => simp [clausesOf, eq_comm]
  | cons e es ih => simp only [clausesOf_cons_eq_ok_iff, List.forall₂_cons_left_iff, ih]

theorem clauseOf_combination_eq_ok_iff {kind : Connective} {parts : List Expression} :
    b.clauseOf (.combination kind parts) = .ok c ↔ 2 ≤ parts.length ∧
      ∃ cs, b.clausesOf parts = .ok cs ∧ c = .group kind.mode cs := by
  rw [clauseOf]
  by_cases few : parts.length < 2
  · rw [if_pos few]
    simp only [reduceCtorEq, false_iff, not_and]
    intro enough
    omega
  · rw [if_neg few]
    cases b.clausesOf parts with
    | error failure => simp
    | ok cs =>
        have enough : 2 ≤ parts.length := by omega
        simp [enough, eq_comm]

end FilterQuery.QueryBuilder
