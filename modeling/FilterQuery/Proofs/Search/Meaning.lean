/-
# FilterQuery.Proofs.Search.Meaning -- queries match what their filters ask for

A filter, its clause and its query in the language of Elasticsearch are three trees,
and a document matches either all of them or none.

From clauses to queries this holds without conditions (`evaluate_toElasticsearch`).
From filters to clauses it holds because of what translation refuses
(`meaning_of_clauseOf`): every combination has at least two parts, so no group of
alternatives is empty, which would match all documents where the combination asks for
none.
-/
import FilterQuery.Proofs.Search.Translation
import FilterQuery.Search.Meaning
import Mathlib.Control.Monad.Basic

namespace FilterQuery

/-! ## From clauses to queries -/

theorem evaluate_term (answer : Leaf → Bool) (field : String) (value : Value) :
    (Clause.term field value).toElasticsearch.evaluate answer =
      some (answer (.ofValue field value)) := by
  cases value <;> rfl

theorem evaluate_range (answer : Leaf → Bool) (field : String) (bound : Bound) (value : Value) :
    (Clause.range field bound value).toElasticsearch.evaluate answer =
      some (answer (.range field bound.keyword value.toJson)) := by
  cases bound <;> rfl

theorem evaluate_group (answer : Leaf → Bool) (mode : Mode) (children : List Clause)
    (all : Json.evaluateAll answer (Clause.toElasticsearchAll children) =
      some (Clause.matchedAll answer children)) :
    (Clause.group mode children).toElasticsearch.evaluate answer =
      some ((Clause.group mode children).matched answer) := by
  have same : (Clause.matchedAll answer children).isEmpty = children.isEmpty := by
    cases children <;> rfl
  cases mode with
  | must => simp [Clause.toElasticsearch, Json.evaluate, all, Mode.keyword, Json.occurrence?,
      Clause.matched]
  | mustNot => simp [Clause.toElasticsearch, Json.evaluate, all, Mode.keyword, Json.occurrence?,
      Clause.matched]
  | should => simp [Clause.toElasticsearch, Json.evaluate, all, Mode.keyword, Json.occurrence?,
      Clause.matched, same]

mutual
/-- A query matches what its clause matches. -/
theorem evaluate_toElasticsearch (answer : Leaf → Bool) : (c : Clause) →
    c.toElasticsearch.evaluate answer = some (c.matched answer)
  | .term field value => evaluate_term answer field value
  | .range field bound value => evaluate_range answer field bound value
  | .group mode children =>
      evaluate_group answer mode children (evaluateAll_toElasticsearchAll answer children)

theorem evaluateAll_toElasticsearchAll (answer : Leaf → Bool) : (cs : List Clause) →
    Json.evaluateAll answer (Clause.toElasticsearchAll cs) = some (Clause.matchedAll answer cs)
  | [] => rfl
  | c :: cs => by
      rw [Clause.toElasticsearchAll, Json.evaluateAll, evaluate_toElasticsearch answer c,
        evaluateAll_toElasticsearchAll answer cs]
      rfl
end

/-! ## From filters to clauses -/

namespace Expression

variable {answer : Leaf → Bool} {b : QueryBuilder}

theorem matched_ofComparison (field : String) (op : Comparator) (value : Value) :
    (Clause.ofComparison field op value).matched answer = compared answer field value op := by
  cases op <;> simp [Clause.ofComparison, Bound.ofComparator?, Clause.matched, Clause.matchedAll,
    compared, Bound.keyword]

theorem meaning_of_comparisonClause {token raw : String} {op : Comparator} {c : Clause}
    (h : b.comparisonClause token op raw = .ok c) :
    meaning b answer (.comparison token op raw) = some (c.matched answer) := by
  obtain ⟨field, value, resolved, read, rfl⟩ := QueryBuilder.comparisonClause_eq_ok_iff.mp h
  rw [meaning, resolved, matched_ofComparison]
  simp [Except.toOption, read]

mutual
/-- The clause of a filter matches what the filter asks for. -/
theorem meaning_of_clauseOf : (e : Expression) → {c : Clause} → b.clauseOf e = .ok c →
    meaning b answer e = some (c.matched answer)
  | .comparison token op raw, c, h => by
      rw [QueryBuilder.clauseOf] at h
      exact meaning_of_comparisonClause h
  | .combination kind parts, c, h => by
      obtain ⟨enough, clauses, translated, rfl⟩ :=
        QueryBuilder.clauseOf_combination_eq_ok_iff.mp h
      have all := meaningAll_of_clausesOf parts translated
      have same := (QueryBuilder.clausesOf_eq_ok_iff.mp translated).length_eq
      have nonempty : clauses.isEmpty = false := by
        rw [List.isEmpty_eq_false_iff, ← List.length_pos_iff]
        omega
      cases kind with
      | all => simp [meaning, all, Connective.mode, Clause.matched]
      | any => simp [meaning, all, Connective.mode, Clause.matched, nonempty]

theorem meaningAll_of_clausesOf : (es : List Expression) → {cs : List Clause} →
    b.clausesOf es = .ok cs → meaningAll b answer es = some (Clause.matchedAll answer cs)
  | [], cs, h => by
      cases h
      rfl
  | e :: es, cs, h => by
      obtain ⟨first, others, here, behind, rfl⟩ := QueryBuilder.clausesOf_cons_eq_ok_iff.mp h
      rw [meaningAll, meaning_of_clauseOf e here, meaningAll_of_clausesOf es behind]
      rfl
end

/-- What the arity check prevents: no alternatives ask for nothing, but every document matches. -/
example : meaning b answer (.combination .any []) = some false ∧
    (Clause.group .should []).matched answer = true :=
  ⟨rfl, rfl⟩

end Expression

/-! ## Queries -/

theorem accept_eq_ok_iff {t t' : Translator} {e : Expression} :
    t.accept e = .ok t' ↔ t.result = none ∧
      ∃ clause, t.builder.clauseOf e = .ok clause ∧ t' = { t with result := some clause } := by
  unfold Translator.accept
  split
  · rename_i kept
    simp [kept]
  · rename_i free
    split
    · rename_i clause translated
      simp [free, translated, eq_comm]
    · rename_i failure refused
      simp [refused]

theorem query_eq_ok_iff {b : QueryBuilder} {filter : String} {c : Clause} :
    b.query filter = .ok c ↔ ∃ e t, b.parse filter = .ok e ∧ b.translator.accept e = .ok t ∧
      t.query = .ok c := by
  unfold QueryBuilder.query
  cases b.parse filter with
  | error failure => simp [bind, Except.bind]
  | ok e =>
      cases h : b.translator.accept e with
      | error failure => simp [bind, Except.bind, h]
      | ok t => simp [bind, Except.bind, h]

end FilterQuery
