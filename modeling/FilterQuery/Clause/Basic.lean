/-
# FilterQuery.Clause.Basic -- queries of a search engine

A clause asks for documents whose field has a value, matches a pattern or lies
on one side of a bound, or joins other clauses: all of them, at least one of
them, or none of them.
-/
import FilterQuery.Expression.Basic
import FilterQuery.Value.Basic

namespace FilterQuery

/-- On which side of a value a field must lie. -/
inductive Bound where
  | greater
  | greaterOrEqual
  | less
  | lessOrEqual
  deriving DecidableEq, Repr

namespace Bound

/-- The bound of an ordering comparator. -/
def ofComparator? : Comparator → Option Bound
  | .greater => some greater
  | .greaterOrEqual => some greaterOrEqual
  | .less => some less
  | .lessOrEqual => some lessOrEqual
  | .equal | .notEqual => none

/-- The value itself lies within the bound. -/
def isInclusive : Bound → Bool
  | greaterOrEqual | lessOrEqual => true
  | greater | less => false

/-- The bound's keyword. -/
def keyword : Bound → String
  | greater => "gt"
  | greaterOrEqual => "gte"
  | less => "lt"
  | lessOrEqual => "lte"

/-- The bound of a keyword. -/
def ofKeyword? : String → Option Bound
  | "gt" => some greater
  | "gte" => some greaterOrEqual
  | "lt" => some less
  | "lte" => some lessOrEqual
  | _ => none

theorem ofKeyword?_keyword (b : Bound) : ofKeyword? b.keyword = some b := by
  cases b <;> rfl

theorem isSome_ofComparator? (op : Comparator) : (ofComparator? op).isSome = op.isOrdering := by
  cases op <;> rfl

end Bound

/-- How many of the children of a clause match. -/
inductive Mode where
  | must
  | should
  | mustNot
  deriving DecidableEq, Repr

namespace Mode

/-- The mode's keyword. -/
def keyword : Mode → String
  | must => "must"
  | should => "should"
  | mustNot => "must_not"

/-- The mode of a keyword. -/
def ofKeyword? : String → Option Mode
  | "must" => some must
  | "should" => some should
  | "must_not" => some mustNot
  | _ => none

theorem ofKeyword?_keyword (m : Mode) : ofKeyword? m.keyword = some m := by
  cases m <;> rfl

end Mode

/-- A query. -/
inductive Clause where
  | term (field : String) (value : Value)
  | range (field : String) (bound : Bound) (value : Value)
  | group (mode : Mode) (children : List Clause)

namespace Clause

mutual
/-- The number of clauses that ask for a field. -/
def leafCount : Clause → Nat
  | .term .. | .range .. => 1
  | .group _ children => leafCountAll children

/-- The number of such clauses in a list. -/
def leafCountAll : List Clause → Nat
  | [] => 0
  | c :: cs => leafCount c + leafCountAll cs
end

mutual
/-- The clause as plain text. -/
def print : Clause → String
  | .term field value =>
    (if value.isPattern then "wildcard(" else "term(") ++ field ++ ":" ++ value.print ++ ")"
  | .range field bound value =>
    "range(" ++ field ++ " " ++ bound.keyword ++ " " ++ value.print ++ ")"
  | .group mode children => mode.keyword ++ "[" ++ ", ".intercalate (printAll children) ++ "]"

/-- The texts of clauses. -/
def printAll : List Clause → List String
  | [] => []
  | c :: cs => print c :: printAll cs
end

end Clause

end FilterQuery
