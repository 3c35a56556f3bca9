/-
# FilterQuery.Search.QueryBuilder -- the clauses that filter expressions stand for

A `QueryBuilder` holds a schema and settings.  By these each comparison is a clause
about the field that its token names: a term for `==`, a group that excludes one
term for `!=`, a range for an ordering operator.  A combination is a group of the
clauses of its parts, and must have at least two of them: a group of alternatives
without any would match every document.

The first failure on the way from left to right, a combination before its parts,
is the one that is reported.
-/
import FilterQuery.Clause.Basic
import FilterQuery.Expression.Parser
import FilterQuery.Schema.Basic
import FilterQuery.Value.Raw

namespace FilterQuery

/-- The mode of a group of parts. -/
def Connective.mode : Connective → Mode
  | all => .must
  | any => .should

/-- The clause that compares a field with a value. -/
def Clause.ofComparison (field : String) (op : Comparator) (value : Value) : Clause :=
  match Bound.ofComparator? op with
  | some bound => .range field bound value
  | none => if op = .notEqual then .group .mustNot [.term field value] else .term field value

/-- A schema and settings that hold for many filters. -/
structure QueryBuilder where
  schema : Schema
  settings : Settings

namespace QueryBuilder

/-- The builder of a schema with default settings. -/
def ofSchema (schema : Schema) : QueryBuilder :=
  ⟨schema, .default⟩

/-- The builder of a schema with settings, which must be usable. -/
def withSettings (schema : Schema) (settings : Settings) : Except SettingsFault QueryBuilder := do
  settings.check
  return ⟨schema, settings⟩

/-- The expression of a filter text. -/
def parse (b : QueryBuilder) (filter : String) : Except Failure Expression :=
  match Expression.parse b.settings.groupLimit filter with
  | .ok e => .ok e
  | .error fault => .error (.malformed fault)

/-- The clause of a comparison: its field is found before its value is read. -/
def comparisonClause (b : QueryBuilder) (token : String) (op : Comparator) (raw : String) :
    Except Failure Clause :=
  match b.schema.resolve token with
  | .error failure => .error failure
  | .ok field =>
    match Value.ofRaw b.settings field op raw with
    | .error failure => .error failure
    | .ok value => .ok (Clause.ofComparison field.indexPath op value)

mutual
/-- The clause of an expression. -/
def clauseOf (b : QueryBuilder) : Expression → Except Failure Clause
  | .comparison token op raw => b.comparisonClause token op raw
  | .combination kind parts =>
    if parts.length < 2 then .error (.malformed ⟨0, .tooFewParts kind parts.length⟩)
    else
      match clausesOf b parts with
      | .error failure => .error failure
      | .ok clauses => .ok (.group kind.mode clauses)

/-- The clauses of expressions, up to the first failure. -/
def clausesOf (b : QueryBuilder) : List Expression → Except Failure (List Clause)
  | [] => .ok []
  | e :: es =>
    match clauseOf b e with
    | .error failure => .error failure
    | .ok clause =>
      match clausesOf b es with
      | .error failure => .error failure
      | .ok clauses => .ok (clause :: clauses)
end

end QueryBuilder

end FilterQuery
