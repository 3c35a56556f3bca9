/-
# FilterQuery.Search.Translator -- one query from the first expression that has one

A `Translator` keeps the clause of the first expression that it could make one of,
and takes no other after it; an expression without a clause leaves it as it was.

`QueryBuilder.query` reads a filter text and gives its expression to a translator of
its own, so that the filters of one builder do not depend on each other.
-/
import FilterQuery.Clause.Elasticsearch
import FilterQuery.Search.QueryBuilder

namespace FilterQuery

/-- A builder, and the clause that was made once there is one. -/
structure Translator where
  builder : QueryBuilder
  result : Option Clause

namespace Translator

/-- The clause of an expression is kept, unless one is kept already. -/
def accept (t : Translator) (e : Expression) : Except Failure Translator :=
  match t.result with
  | some _ => .error .alreadyTranslated
  | none =>
    match t.builder.clauseOf e with
    | .ok clause => .ok { t with result := some clause }
    | .error failure => .error failure

/-- The clause that is kept. -/
def query (t : Translator) : Except Failure Clause :=
  match t.result with
  | some clause => .ok clause
  | none => .error .notTranslated

end Translator

namespace QueryBuilder

/-- A translator that keeps nothing yet. -/
def translator (b : QueryBuilder) : Translator :=
  ⟨b, none⟩

/-- The clause of a filter text. -/
def query (b : QueryBuilder) (filter : String) : Except Failure Clause := do
  let e ← b.parse filter
  let t ← b.translator.accept e
  t.query

/-- The query of a filter text in the language of Elasticsearch. -/
def elasticsearchQuery (b : QueryBuilder) (filter : String) : Except Failure Json :=
  (b.query filter).map Clause.toElasticsearch

end QueryBuilder

end FilterQuery
