/-
# FilterQuery.Expression.Tree -- expressions as trees

The nodes of an expression are all expressions in it, itself included: each before its parts,
and these from left to right (`Expression.nodes`).  Its height is the number of combinations that
stand one in another (`Expression.height`), which is how far a function goes down that calls
itself for the parts of a combination.
-/
import FilterQuery.Expression.Basic

namespace FilterQuery.Expression

mutual
/-- The expression, and those in it. -/
def nodes : Expression → List Expression
  | .comparison field op value => [.comparison field op value]
  | .combination kind parts => .combination kind parts :: nodesAll parts

/-- The nodes of a list of expressions. -/
def nodesAll : List Expression → List Expression
  | [] => []
  | e :: es => nodes e ++ nodesAll es
end

mutual
/-- The number of combinations one in another. -/
def height : Expression → Nat
  | .comparison .. => 0
  | .combination _ parts => 1 + heightAll parts

/-- The largest height in a list of expressions. -/
def heightAll : List Expression → Nat
  | [] => 0
  | e :: es => max (height e) (heightAll es)
end

end FilterQuery.Expression
