/-
# FilterQuery.Search.Marked -- comparisons with the marker in their values

A marker that the settings allow can stand anywhere in a bare value, also directly behind an
operator, with anything around it that a bare value may hold.  A `MarkedComparison` is such a
comparison but for the marker; only an equals sign cannot come first in its argument, because an
operator might go on with it.

`QueryBuilder.ReadsMarked` says that it is read as it is written, and that it asks for a pattern of
a field that allows wildcards.
-/
import FilterQuery.Expression.Grammar
import FilterQuery.Search.Translator

namespace FilterQuery

/-- A selector, one of the tokens, and what stands before and behind the marker. -/
structure MarkedComparison where
  field : String
  token : String
  op : Comparator
  before : String
  behind : String
  isSelector : Expression.SelectorText field.toList
  isToken : (token, op) ∈ Comparator.spellings
  plainBefore : ∀ c ∈ before.toList, Expression.isReserved c = false
  plainBehind : ∀ c ∈ behind.toList, Expression.isReserved c = false
  tokenEnds : before.toList.head? ≠ some '='

namespace MarkedComparison

/-- What stands behind the token. -/
def argument (m : MarkedComparison) (marker : Char) : String :=
  m.before ++ String.singleton marker ++ m.behind

/-- The comparison as it is written. -/
def text (m : MarkedComparison) (marker : Char) : String :=
  m.field ++ m.token ++ m.argument marker

/-- The value that the comparison has. -/
def value (m : MarkedComparison) (marker : Char) : String :=
  String.ofList (Text.trim (m.argument marker).toList)

/-- The pattern that its value stands for. -/
def pattern (m : MarkedComparison) (marker : Char) : Value :=
  .pattern (String.ofList (Wildcard.normalize marker (m.value marker).toList))

/-- What a filter of this one comparison gives on a field that allows wildcards. -/
def answer (m : MarkedComparison) (marker : Char) (field : Field) : Except Failure Clause :=
  match m.op with
  | .equal => .ok (.term field.indexPath (m.pattern marker))
  | .notEqual => .ok (.group .mustNot [.term field.indexPath (m.pattern marker)])
  | .greater | .greaterOrEqual | .less | .lessOrEqual =>
    .error (.invalidOperator field.path m.op .string .wildcardsEqualityOnly)

end MarkedComparison

/-- A builder reads a comparison with its marker as it is written. -/
structure QueryBuilder.ReadsMarked (b : QueryBuilder) (m : MarkedComparison) : Prop where
  parsed : b.parse (m.text b.settings.wildcard) =
    .ok (.comparison m.field m.op (m.value b.settings.wildcard))
  kept : b.settings.wildcard ∈ (m.value b.settings.wildcard).toList
  answered : ∀ field, b.schema.resolve m.field = .ok field →
    field.kind = .string → field.wildcards = true →
      b.query (m.text b.settings.wildcard) = m.answer b.settings.wildcard field

end FilterQuery
