/-
# FilterQuery.Clause.Elasticsearch -- clauses in the query language of Elasticsearch

A term is a `term` query, or a `wildcard` query if its value is a pattern; a
range is a `range` query with one bound; a group is a `bool` query with one list.
Values keep nothing of their kind but what JSON shows of it, and a double that is
no number becomes `null`.
-/
import FilterQuery.Clause.Basic
import FilterQuery.Json.Basic

namespace FilterQuery

/-- A value without its kind. -/
def Value.toJson : Value → Json
  | .text s | .pattern s | .member s => .text s
  | .integer n => .integer n.toInt
  | .float x => if Number.Double.isFinite x then .float x else .null
  | .boolean b => .boolean b
  | .date t => .text t.print

namespace Clause

mutual
/-- The query that a clause stands for. -/
def toElasticsearch : Clause → Json
  | .term field (.pattern p) =>
    .object [("wildcard", .object [(field, .object [("value", .text p)])])]
  | .term field value => .object [("term", .object [(field, value.toJson)])]
  | .range field bound value =>
    .object [("range", .object [(field, .object [(bound.keyword, value.toJson)])])]
  | .group mode children =>
    .object [("bool", .object [(mode.keyword, .array (toElasticsearchAll children))])]

/-- The queries that clauses stand for. -/
def toElasticsearchAll : List Clause → List Json
  | [] => []
  | c :: cs => toElasticsearch c :: toElasticsearchAll cs
end

end Clause

end FilterQuery
