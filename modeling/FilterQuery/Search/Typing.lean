/-
# FilterQuery.Search.Typing -- queries that make sense for a schema

`Clause.Typed` has a rule for each form that a query may have: a term or a range is about
a field that can be searched, by its path in the index and with a value that the field
takes; a group that excludes has one term, and any other group at least two parts.

As JSON such a query has no `null` in it (`Json.containsNull`).  The leaves of the JSON are
the leaves of the query one by one, and patterns are found nowhere but under `wildcard`
(`Json.Renders`).
-/
import FilterQuery.Search.Meaning
import FilterQuery.Value.Typing
import Mathlib.Data.List.Defs

namespace FilterQuery

namespace Clause

/-- A query that makes sense for a schema. -/
inductive Typed (s : Schema) : Clause → Prop where
  | term (field : Field) (value : Value) (known : field ∈ s.fields)
      (searchable : field.searchable = true) (takes : field.Takes value) :
      Typed s (.term field.indexPath value)
  | range (field : Field) (bound : Bound) (value : Value) (known : field ∈ s.fields)
      (searchable : field.searchable = true) (takes : field.Takes value)
      (ordered : value.isOrdered = true) : Typed s (.range field.indexPath bound value)
  | excluded (field : String) (value : Value) (typed : Typed s (.term field value)) :
      Typed s (.group .mustNot [.term field value])
  | group (mode : Mode) (children : List Clause) (includes : mode ≠ .mustNot)
      (atLeastTwo : 2 ≤ children.length) (typed : ∀ c ∈ children, Typed s c) :
      Typed s (.group mode children)

mutual
/-- The terms and ranges in a clause, from left to right. -/
def leaves : Clause → List Clause
  | .term field value => [.term field value]
  | .range field bound value => [.range field bound value]
  | .group _ children => leavesAll children

/-- The terms and ranges in clauses. -/
def leavesAll : List Clause → List Clause
  | [] => []
  | c :: cs => leaves c ++ leavesAll cs
end

end Clause

namespace Json

mutual
/-- There is a `null` somewhere in the text of a value. -/
def containsNull : Json → Bool
  | .null => true
  | .float x => !Number.Double.isFinite x
  | .boolean _ | .integer _ | .text _ | .unreadable => false
  | .array items => itemsContainNull items
  | .object entries => entriesContainNull entries

/-- There is one in the text of an item. -/
def itemsContainNull : List Json → Bool
  | [] => false
  | item :: items => containsNull item || itemsContainNull items

/-- There is one in the text of a value of an object. -/
def entriesContainNull : List (String × Json) → Bool
  | [] => false
  | (_, value) :: entries => containsNull value || entriesContainNull entries
end

mutual
/-- The questions in a query, from left to right. -/
def leaves? : Json → Option (List Leaf)
  | .object [("bool", .object [(keyword, .array items)])] =>
    if (occurrence? keyword).isSome then leavesAll? items else none
  | .object [(keyword, .object [(field, value)])] => do
    let leaf ← Leaf.read? keyword field value
    return [leaf]
  | _ => none

/-- The questions in queries. -/
def leavesAll? : List Json → Option (List Leaf)
  | [] => some []
  | item :: items => do
    let first ← leaves? item
    let others ← leavesAll? items
    return first ++ others
end

end Json

/-- A question in a query is what a term or a range of a clause asks; only that of a term may have a
pattern, and it is not asked as a term then. -/
inductive Leaf.Renders : Leaf → Clause → Prop where
  | wildcard (field pattern : String) :
      Renders (.wildcard field pattern) (.term field (.pattern pattern))
  | term (field : String) (value : Value) (plain : value.isPattern = false) :
      Renders (.term field value.toJson) (.term field value)
  | range (field : String) (bound : Bound) (value : Value) (plain : value.isPattern = false) :
      Renders (.range field bound.keyword value.toJson) (.range field bound value)

/-- A query renders a clause, without a `null`. -/
structure Json.Renders (json : Json) (c : Clause) : Prop where
  noNull : json.containsNull = false
  leaves : ∃ leaves, json.leaves? = some leaves ∧ List.Forall₂ Leaf.Renders leaves c.leaves

end FilterQuery
