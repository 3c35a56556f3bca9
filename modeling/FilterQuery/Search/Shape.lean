/-
# FilterQuery.Search.Shape -- how deep what is read can be

A group of a filter text adds at most two combinations to the height of its expression, one for
each connective.  `Expression.Shaped` says what shape an expression has that was read with a
limit of groups: its combinations join at least two parts, its fields are selectors, and its
height is bounded by the limit, whatever the length of the text.  So are the groups of its
canonical text and the height of its clause, and with them how far down printing, translation and
rendering go.
-/
import FilterQuery.Expression.Grammar
import FilterQuery.Expression.Tree
import FilterQuery.Search.QueryBuilder

namespace FilterQuery

namespace Clause

mutual
/-- The number of combinations one in another.  A group that excludes a term stands for a
comparison and is none. -/
def height : Clause → Nat
  | .term .. | .range .. => 0
  | .group .mustNot children => heightAll children
  | .group .must children | .group .should children => 1 + heightAll children

/-- The largest height in a list of clauses. -/
def heightAll : List Clause → Nat
  | [] => 0
  | c :: cs => max (height c) (heightAll cs)
end

end Clause

/-- The shape of an expression that was read with at most `limit` groups one in another. -/
structure Expression.Shaped (limit : Nat) (e : Expression) : Prop where
  joins : ∀ kind parts, .combination kind parts ∈ e.nodes → 2 ≤ parts.length
  selects : ∀ field ∈ e.fields, SelectorText field.toList
  height : e.height ≤ 2 * (limit + 1)
  /-- The canonical text is a filter whose groups nest at most so deep. -/
  printed : Derives (2 * limit + 1) e.print.toList e
  translated : ∀ (b : QueryBuilder) (c : Clause), b.clauseOf e = .ok c →
    c.height ≤ 2 * (limit + 1)

end FilterQuery
