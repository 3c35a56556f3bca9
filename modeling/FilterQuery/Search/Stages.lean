/-
# FilterQuery.Search.Stages -- where a filter can fail

A filter text is parsed, and then the field of each of its comparisons is found and the value
is read.  A comparison that comes through is answered (`QueryBuilder.Answers`), any other is
refused for its field or, if that is found, for its value (`QueryBuilder.Refuses`); a value whose
calculation overflows is among the refused.

`QueryBuilder.FailsByStages` says that a filter fails for one of these reasons and for no other:
for what the parser finds, or else for the first comparison that is refused.
-/
import FilterQuery.Search.Translator

namespace FilterQuery

/-- A comparison by itself. -/
structure Comparison where
  field : String
  op : Comparator
  value : String
  deriving DecidableEq, Repr

namespace Expression

mutual
/-- The comparisons, from left to right. -/
def comparisons : Expression → List Comparison
  | .comparison field op value => [⟨field, op, value⟩]
  | .combination _ parts => comparisonsAll parts

/-- The comparisons in a list of expressions. -/
def comparisonsAll : List Expression → List Comparison
  | [] => []
  | e :: es => comparisons e ++ comparisonsAll es
end

end Expression

namespace QueryBuilder

/-- The field of a comparison is found, and its value is one that the field takes. -/
def Answers (b : QueryBuilder) (c : Comparison) : Prop :=
  ∃ field value, b.schema.resolve c.field = .ok field ∧
    Value.ofRaw b.settings field c.op c.value = .ok value

/-- What a comparison is refused for: its field, before its value. -/
inductive Refuses (b : QueryBuilder) (c : Comparison) : Failure → Prop where
  | field {failure : Failure} : b.schema.resolve c.field = .error failure → Refuses b c failure
  | value {field : Field} {failure : Failure} : b.schema.resolve c.field = .ok field →
      Value.ofRaw b.settings field c.op c.value = .error failure → Refuses b c failure

/-- The failures of a filter text are those of its stages. -/
structure FailsByStages (b : QueryBuilder) (filter : String) : Prop where
  /-- A filter is malformed exactly if the parser says so, and then it is what the parser says. -/
  malformed_iff : ∀ fault, b.query filter = .error (.malformed fault) ↔
    Expression.parse b.settings.groupLimit filter = .error fault
  /-- No text has a combination of too few parts. -/
  notShort : ∀ position kind found,
    b.query filter ≠ .error (.malformed ⟨position, .tooFewParts kind found⟩)
  /-- A translator is never asked for the wrong thing. -/
  notIllegal : b.query filter ≠ .error .alreadyTranslated ∧ b.query filter ≠ .error .notTranslated
  /-- A filter that parses has a query exactly if each of its comparisons is answered. -/
  ok_iff : ∀ e, Expression.parse b.settings.groupLimit filter = .ok e →
    ((∃ q, b.query filter = .ok q) ↔ ∀ c ∈ e.comparisons, b.Answers c)
  /-- If it has none, that is for the first comparison that is refused. -/
  error_iff : ∀ e, Expression.parse b.settings.groupLimit filter = .ok e →
    ∀ failure, b.query filter = .error failure ↔
      ∃ before c behind, e.comparisons = before ++ c :: behind ∧
        (∀ d ∈ before, b.Answers d) ∧ b.Refuses c failure

end QueryBuilder

end FilterQuery
