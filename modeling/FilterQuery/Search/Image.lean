/-
# FilterQuery.Search.Image -- what becomes of each node of an expression

The clause of an expression has the same shape as the expression: a combination becomes one group of
the clauses of its parts, in their order, and a comparison becomes a term, a range, or a group that
excludes one term (`QueryBuilder.Image`).  So it asks as many questions as there are comparisons, and
asks them about the same fields in the same order (`QueryBuilder.Keeps`).

For a filter text these are the comparisons that are written in it (`Expression.Written`): what is
left of the text without them is blanks, separators and parentheses.
-/
import FilterQuery.Expression.Grammar
import FilterQuery.Search.Stages
import Mathlib.Data.List.Defs

namespace FilterQuery

namespace Clause

mutual
/-- The fields that are asked for, from left to right. -/
def fields : Clause → List String
  | .term field _ | .range field _ _ => [field]
  | .group _ children => fieldsAll children

/-- The fields that clauses ask for. -/
def fieldsAll : List Clause → List String
  | [] => []
  | c :: cs => fields c ++ fieldsAll cs
end

end Clause

/-- The comparator that asks for a bound. -/
def Bound.comparator : Bound → Comparator
  | greater => .greater
  | greaterOrEqual => .greaterOrEqual
  | less => .less
  | lessOrEqual => .lessOrEqual

/-- The comparisons that stand in a text, from left to right, each as long as it can be, and
nothing else but blanks and delimiters between them. -/
inductive Expression.Written : List Char → List Comparison → Prop where
  | nil : Written [] []
  | between {c : Char} {s : List Char} {cs : List Comparison} :
      Text.isBlank c = true ∨ isDelimiter c = true → Written s cs → Written (c :: s) cs
  | comparison {phrase rest : List Char} {c : Comparison} {cs : List Comparison} :
      ComparisonText phrase (.comparison c.field c.op c.value) →
      (∀ d ∈ (Text.dropBlank rest).head?, isDelimiter d = true) →
      Written rest cs → Written (phrase ++ rest) (c :: cs)

namespace QueryBuilder

/-- A clause is the image of an expression, node for node. -/
inductive Image (b : QueryBuilder) : Expression → Clause → Prop where
  | equal {token raw : String} {field : Field} {value : Value} :
      b.schema.resolve token = .ok field → Value.ofRaw b.settings field .equal raw = .ok value →
      Image b (.comparison token .equal raw) (.term field.indexPath value)
  | notEqual {token raw : String} {field : Field} {value : Value} :
      b.schema.resolve token = .ok field → Value.ofRaw b.settings field .notEqual raw = .ok value →
      Image b (.comparison token .notEqual raw) (.group .mustNot [.term field.indexPath value])
  | ordering {token raw : String} {field : Field} {value : Value} (bound : Bound) :
      b.schema.resolve token = .ok field →
      Value.ofRaw b.settings field bound.comparator raw = .ok value →
      Image b (.comparison token bound.comparator raw) (.range field.indexPath bound value)
  | all {parts : List Expression} {clauses : List Clause} : 2 ≤ parts.length →
      List.Forall₂ (Image b) parts clauses → Image b (.combination .all parts) (.group .must clauses)
  | any {parts : List Expression} {clauses : List Clause} : 2 ≤ parts.length →
      List.Forall₂ (Image b) parts clauses →
      Image b (.combination .any parts) (.group .should clauses)

/-- A token is found to be a field, and this is where the index has it. -/
def Finds (b : QueryBuilder) (token path : String) : Prop :=
  ∃ field, b.schema.resolve token = .ok field ∧ path = field.indexPath

/-- A clause asks what an expression says, no more and no less. -/
structure Keeps (b : QueryBuilder) (e : Expression) (q : Clause) : Prop where
  image : b.Image e q
  counted : q.leafCount = e.count
  listed : e.fields.length = e.count
  found : List.Forall₂ b.Finds e.fields q.fields

/-- A clause asks what is written in a text, no more and no less. -/
structure KeepsWritten (b : QueryBuilder) (filter : String) (q : Clause) : Prop where
  written : ∃ cs, Expression.Written filter.toList cs
  counted : ∀ cs, Expression.Written filter.toList cs → q.leafCount = cs.length
  found : ∀ cs, Expression.Written filter.toList cs →
    List.Forall₂ b.Finds (cs.map Comparison.field) q.fields

end QueryBuilder

end FilterQuery
