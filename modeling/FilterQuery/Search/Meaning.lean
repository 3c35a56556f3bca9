/-
# FilterQuery.Search.Meaning -- which documents filters and queries match

A search engine answers questions about one field of a document: whether it has a
value, matches a pattern, or lies on one side of a value (`Leaf`).  What the answers
are is left open; everything here takes them as given.

* `Expression.meaning`: a combination asks for all of its parts or for some of them, a
  comparison for the leaf of the field and the value that its texts stand for, or, with
  `!=`, for the opposite.
* `Json.evaluate`: a query in the language of Elasticsearch.  A `bool` query holds a list
  of queries under `must`, `must_not` or `should`; an empty `should` asks for nothing.
* `Clause.matched`: what lies between the two.

A text that is no query, and a comparison of a field that there is not or with a value
that it cannot take, have no meaning.
-/
import FilterQuery.Search.Translator

namespace FilterQuery

/-- A question about one field of a document. -/
inductive Leaf where
  | term (field : String) (value : Json)
  | wildcard (field pattern : String)
  | range (field bound : String) (value : Json)

namespace Leaf

/-- The question whether a field has a value, or matches it if it is a pattern. -/
def ofValue (field : String) : Value → Leaf
  | .pattern pattern => .wildcard field pattern
  | value => .term field value.toJson

/-- The question that stands under a keyword and a field in a query. -/
def read? : (keyword field : String) → Json → Option Leaf
  | "term", field, value => some (.term field value)
  | "wildcard", field, .object [("value", .text pattern)] => some (.wildcard field pattern)
  | "range", field, .object [(bound, value)] =>
    if bound ∈ ["gt", "gte", "lt", "lte"] then some (.range field bound value) else none
  | _, _, _ => none

end Leaf

/-! ## Queries as JSON -/

namespace Json

/-- What a keyword of a `bool` query asks of its list. -/
def occurrence? : String → Option (List Bool → Bool)
  | "must" => some fun answers => answers.all id
  | "must_not" => some fun answers => !answers.any id
  | "should" => some fun answers => answers.isEmpty || answers.any id
  | _ => none

mutual
/-- Whether a document for which the leaves have these answers matches a query. -/
def evaluate (answer : Leaf → Bool) : Json → Option Bool
  | .object [("bool", .object [(keyword, .array items)])] => do
    let asked ← occurrence? keyword
    let answers ← evaluateAll answer items
    return asked answers
  | .object [(keyword, .object [(field, value)])] => (Leaf.read? keyword field value).map answer
  | _ => none

/-- Whether it matches each query of a list. -/
def evaluateAll (answer : Leaf → Bool) : List Json → Option (List Bool)
  | [] => some []
  | item :: items => do
    let matched ← evaluate answer item
    let others ← evaluateAll answer items
    return matched :: others
end

end Json

/-! ## Clauses -/

namespace Clause

mutual
/-- Whether a document for which the leaves have these answers matches a clause. -/
def matched (answer : Leaf → Bool) : Clause → Bool
  | .term field value => answer (.ofValue field value)
  | .range field bound value => answer (.range field bound.keyword value.toJson)
  | .group .must children => (matchedAll answer children).all id
  | .group .mustNot children => !(matchedAll answer children).any id
  | .group .should children => children.isEmpty || (matchedAll answer children).any id

/-- Whether it matches each clause of a list. -/
def matchedAll (answer : Leaf → Bool) : List Clause → List Bool
  | [] => []
  | c :: cs => matched answer c :: matchedAll answer cs
end

end Clause

/-! ## Expressions -/

namespace Expression

/-- What a comparison asks of a field and a value. -/
def compared (answer : Leaf → Bool) (field : String) (value : Value) : Comparator → Bool
  | .equal => answer (.ofValue field value)
  | .notEqual => !answer (.ofValue field value)
  | .greater => answer (.range field "gt" value.toJson)
  | .greaterOrEqual => answer (.range field "gte" value.toJson)
  | .less => answer (.range field "lt" value.toJson)
  | .lessOrEqual => answer (.range field "lte" value.toJson)

mutual
/-- Whether a document for which the leaves have these answers is one that a filter asks for. -/
def meaning (b : QueryBuilder) (answer : Leaf → Bool) : Expression → Option Bool
  | .comparison token op raw => do
    let field ← (b.schema.resolve token).toOption
    let value ← (Value.ofRaw b.settings field op raw).toOption
    return compared answer field.indexPath value op
  | .combination .all parts => (meaningAll b answer parts).map fun answers => answers.all id
  | .combination .any parts => (meaningAll b answer parts).map fun answers => answers.any id

/-- Whether it is one that each filter of a list asks for. -/
def meaningAll (b : QueryBuilder) (answer : Leaf → Bool) : List Expression → Option (List Bool)
  | [] => some []
  | e :: es => do
    let asked ← meaning b answer e
    let others ← meaningAll b answer es
    return asked :: others
end

end Expression

end FilterQuery
