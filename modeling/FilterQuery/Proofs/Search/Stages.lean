/-
# FilterQuery.Proofs.Search.Stages -- the failures of a filter are those of its stages

All that is wrong with an expression, in the order in which it is looked at, is a list
(`QueryBuilder.failures`), and the clause of an expression fails with the first of it
(`head?_failures`).  Combinations of too few parts are not read from any text, so for an
expression that was read the list holds the refusals of its comparisons and nothing else
(`failures_of_wellFormed`).

A comparison is refused for its field, its operator or its value (`isOfComparison_of_refuses`),
and these failures can be told from those of the parser.
-/
import FilterQuery.Proofs.Printing.Nesting
import FilterQuery.Proofs.Reading.Blame
import FilterQuery.Proofs.Schema.Resolution
import FilterQuery.Proofs.Search.Translation
import FilterQuery.Proofs.Value.Operators
import FilterQuery.Search.Stages

namespace FilterQuery

/-- The failures that a comparison can have. -/
def Failure.isOfComparison : Failure → Bool
  | .unknownField .. | .invalidOperator .. | .unfitValue .. | .overflow => true
  | _ => false

namespace Expression

theorem comparisonsAll_eq (es : List Expression) : comparisonsAll es = es.flatMap comparisons := by
  induction es with
  | nil => rfl
  | cons e es ih => simp [comparisonsAll, ih]

end Expression

namespace QueryBuilder

variable {b : QueryBuilder} {c : Comparison} {failure : Failure}

/-! ## Comparisons -/

/-- What a comparison is refused for, if it is. -/
def refusal? (b : QueryBuilder) (c : Comparison) : Option Failure :=
  fault? (b.comparisonClause c.field c.op c.value)

theorem refusal?_eq_none_iff : b.refusal? c = none ↔ b.Answers c := by
  rw [refusal?, fault?_eq_none_iff]
  simp only [comparisonClause_eq_ok_iff, Answers]
  constructor
  · rintro ⟨_, field, value, resolved, read, -⟩
    exact ⟨field, value, resolved, read⟩
  · rintro ⟨field, value, resolved, read⟩
    exact ⟨_, field, value, resolved, read, rfl⟩

theorem refusal?_eq_some_iff : b.refusal? c = some failure ↔ b.Refuses c failure := by
  rw [refusal?, fault?_eq_some_iff, comparisonClause]
  constructor
  · intro h
    split at h
    · rename_i refused
      cases h
      exact .field refused
    · rename_i field resolved
      split at h
      · rename_i refused
        cases h
        exact .value resolved refused
      · cases h
  · rintro (refused | ⟨resolved, refused⟩)
    · rw [refused]
    · simp only [resolved, refused]

theorem isOfComparison_of_resolve {s : Schema} {token : String}
    (h : s.resolve token = .error failure) : failure.isOfComparison = true := by
  rcases Schema.resolve_cases s token with ⟨f, _, _, result⟩ | ⟨f, _, _, result⟩ |
    ⟨_, _, result⟩ | ⟨_, _, result⟩
  all_goals
    rw [result] at h
    cases h
  all_goals rfl

theorem isOfComparison_of_ofRaw {settings : Settings} {field : Field} {op : Comparator}
    {raw : String} (h : Value.ofRaw settings field op raw = .error failure) :
    failure.isOfComparison = true := by
  rcases Value.ofRaw_cases settings field op raw with ⟨reason, _, _, refused⟩ | read
  · rw [refused] at h
    cases h
    rfl
  · rw [read] at h
    obtain ⟨_, rfl⟩ | rfl := Value.reading_eq_error h
    · rfl
    · rfl

theorem isOfComparison_of_refuses (h : b.Refuses c failure) : failure.isOfComparison = true := by
  cases h with
  | field refused => exact isOfComparison_of_resolve refused
  | value _ refused => exact isOfComparison_of_ofRaw refused

/-! ## Expressions -/

mutual
/-- All that is wrong with an expression: a combination before its parts, and these from left to
right. -/
def failures (b : QueryBuilder) : Expression → List Failure
  | .comparison field op value => (b.refusal? ⟨field, op, value⟩).toList
  | .combination kind parts =>
    if parts.length < 2 then .malformed ⟨0, .tooFewParts kind parts.length⟩ :: failuresAll b parts
    else failuresAll b parts

/-- All that is wrong with a list of expressions. -/
def failuresAll (b : QueryBuilder) : List Expression → List Failure
  | [] => []
  | e :: es => failures b e ++ failuresAll b es
end

theorem failuresAll_eq (es : List Expression) : b.failuresAll es = es.flatMap b.failures := by
  induction es with
  | nil => rfl
  | cons e es ih => simp [failuresAll, ih]

mutual
/-- **The first of the failures is the one that is reported.** -/
theorem head?_failures : (e : Expression) → (b.failures e).head? = fault? (b.clauseOf e)
  | .comparison field op value => by
      rw [failures, clauseOf, refusal?]
      cases b.comparisonClause field op value <;> rfl
  | .combination kind parts => by
      rw [failures, clauseOf]
      split
      · rfl
      · rw [head?_failuresAll parts]
        cases b.clausesOf parts <;> rfl

theorem head?_failuresAll : (es : List Expression) →
    (b.failuresAll es).head? = fault? (b.clausesOf es)
  | [] => rfl
  | e :: es => by
      rw [failuresAll, clausesOf, List.head?_append, head?_failures e, head?_failuresAll es]
      cases b.clauseOf e with
      | error failure => rfl
      | ok first => cases b.clausesOf es <;> rfl
end

/-- Where no combination is too short, only comparisons are refused. -/
theorem failures_of_wellFormed {e : Expression} (wellFormed : e.WellFormed) :
    b.failures e = e.comparisons.filterMap b.refusal? := by
  induction wellFormed with
  | @comparison field op value =>
      rw [failures, Expression.comparisons]
      cases refused : b.refusal? ⟨field, op, value⟩ <;> simp [refused]
  | @combination kind parts atLeastTwo _ ih =>
      rw [failures, if_neg (by omega), failuresAll_eq, Expression.comparisons,
        Expression.comparisonsAll_eq, List.filterMap_flatMap]
      exact List.flatMap_congr ih

/-! ## Filters -/

theorem query_of_parse_ok {filter : String} {e : Expression}
    (parsed : Expression.parse b.settings.groupLimit filter = .ok e) :
    b.query filter = b.clauseOf e := by
  rw [query, parse, parsed]
  simp only [Translator.accept, translator, bind, Except.bind]
  cases b.clauseOf e <;> rfl

theorem query_of_parse_error {filter : String} {fault : Malformed}
    (refused : Expression.parse b.settings.groupLimit filter = .error fault) :
    b.query filter = .error (.malformed fault) := by
  rw [query, parse, refused]
  rfl

/-- The failure of a filter that parses is the first refusal of a comparison. -/
theorem fault?_query {filter : String} {e : Expression}
    (parsed : Expression.parse b.settings.groupLimit filter = .ok e) :
    fault? (b.query filter) = e.comparisons.findSome? b.refusal? := by
  have wellFormed := (Expression.parse_eq_ok_iff.mp parsed).wellFormed
  rw [query_of_parse_ok parsed, ← head?_failures, failures_of_wellFormed wellFormed,
    List.head?_filterMap]

theorem query_eq_error_iff {filter : String} {e : Expression}
    (parsed : Expression.parse b.settings.groupLimit filter = .ok e) :
    b.query filter = .error failure ↔ ∃ before c behind,
      e.comparisons = before ++ c :: behind ∧ (∀ d ∈ before, b.Answers d) ∧
        b.Refuses c failure := by
  rw [← fault?_eq_some_iff, fault?_query parsed, List.findSome?_eq_some_iff]
  simp only [refusal?_eq_none_iff, refusal?_eq_some_iff]
  constructor
  · rintro ⟨before, c, behind, split, refused, answered⟩
    exact ⟨before, c, behind, split, answered, refused⟩
  · rintro ⟨before, c, behind, split, answered, refused⟩
    exact ⟨before, c, behind, split, refused, answered⟩

/-- A failure of a filter is a fault of its text or a refusal of a comparison. -/
theorem query_error_cases {filter : String} (failed : b.query filter = .error failure) :
    (∃ fault, Expression.parse b.settings.groupLimit filter = .error fault ∧
      failure = .malformed fault) ∨ failure.isOfComparison = true := by
  cases parsed : Expression.parse b.settings.groupLimit filter with
  | error fault =>
      rw [query_of_parse_error parsed] at failed
      cases failed
      exact .inl ⟨fault, rfl, rfl⟩
  | ok e =>
      obtain ⟨_, c, _, _, _, refused⟩ := (query_eq_error_iff parsed).mp failed
      exact .inr (isOfComparison_of_refuses refused)

/-- The parser, the resolution of fields and the reading of values are all that can fail. -/
theorem query_failsByStages (b : QueryBuilder) (filter : String) : b.FailsByStages filter where
  malformed_iff fault := by
    refine ⟨fun failed => ?_, query_of_parse_error⟩
    rcases query_error_cases failed with ⟨fault', refused, same⟩ | impossible
    · cases same
      exact refused
    · cases impossible
  notShort position kind found failed := by
    rcases query_error_cases failed with ⟨fault, refused, same⟩ | impossible
    · cases same
      exact absurd (Expression.isOfText_of_parse refused) (by simp [SyntaxCause.isOfText])
    · cases impossible
  notIllegal := by
    constructor
    · intro failed
      rcases query_error_cases failed with ⟨_, _, ⟨⟩⟩ | ⟨⟨⟩⟩
    · intro failed
      rcases query_error_cases failed with ⟨_, _, ⟨⟩⟩ | ⟨⟨⟩⟩
  ok_iff e parsed := by
    rw [← fault?_eq_none_iff, fault?_query parsed, List.findSome?_eq_none_iff]
    simp only [refusal?_eq_none_iff]
  error_iff e parsed failure := query_eq_error_iff parsed

end QueryBuilder

end FilterQuery
