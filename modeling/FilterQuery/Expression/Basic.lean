/-
# FilterQuery.Expression.Basic -- filter expressions

A filter expression is a tree: its leaves compare a field with a value that is
still plain text, its inner nodes join expressions by *and* or by *or*.

* `Comparator.spellings` lists the ten tokens of the grammar, the longer ones
  before those that begin them; `Comparator.text` is the canonical one of each.
* `Expression.count` and `Expression.fields` walk the comparisons from left to
  right (`fields_length`: there are as many of the one as of the other).
* `Expression.depth` is the number of parentheses that the printed form nests.
* `Expression.same_iff`: the structural test decides equality.
-/
import FilterQuery.Text.Front

namespace FilterQuery

/-- The six comparisons of a field with a value. -/
inductive Comparator where
  | equal
  | notEqual
  | greater
  | greaterOrEqual
  | less
  | lessOrEqual
  deriving DecidableEq, Repr

namespace Comparator

/-- Equality or its negation; all other comparisons order their operands. -/
def isEquality : Comparator → Bool
  | equal | notEqual => true
  | _ => false

/-- A comparison that asks for an order. -/
def isOrdering (op : Comparator) : Bool :=
  !op.isEquality

/-- The canonical token. -/
def text : Comparator → String
  | equal => "=="
  | notEqual => "!="
  | greater => "=gt="
  | greaterOrEqual => "=ge="
  | less => "=lt="
  | lessOrEqual => "=le="

/-- All tokens, in the order in which they are tried. -/
def spellings : List (String × Comparator) :=
  [("=gt=", greater), ("=ge=", greaterOrEqual), ("=lt=", less), ("=le=", lessOrEqual),
   ("==", equal), ("!=", notEqual), (">=", greaterOrEqual), ("<=", lessOrEqual),
   (">", greater), ("<", less)]

/-- The comparator that a whole text names. -/
def ofText? (s : String) : Option Comparator :=
  spellings.lookup s

/-- The comparator whose token begins `s`, and what follows the token. -/
def lex? (s : List Char) : Option (Comparator × List Char) :=
  spellings.findSome? fun (token, op) => (Text.after? token.toList s).map (op, ·)

end Comparator

/-- How the parts of a combination are joined. -/
inductive Connective where
  | all
  | any
  deriving DecidableEq, Repr

namespace Connective

/-- The character between two parts. -/
def separator : Connective → Char
  | all => ';'
  | any => ','

end Connective

/-- A filter: comparisons joined by connectives. -/
inductive Expression where
  | comparison (field : String) (op : Comparator) (value : String)
  | combination (kind : Connective) (parts : List Expression)
  deriving Repr

namespace Expression

/-! ## Measures -/

mutual
/-- The number of comparisons. -/
def count : Expression → Nat
  | .comparison .. => 1
  | .combination _ parts => countAll parts

/-- The number of comparisons in a list of expressions. -/
def countAll : List Expression → Nat
  | [] => 0
  | e :: es => count e + countAll es
end

mutual
/-- The fields compared, from left to right. -/
def fields : Expression → List String
  | .comparison field .. => [field]
  | .combination _ parts => fieldsAll parts

/-- The fields compared in a list of expressions. -/
def fieldsAll : List Expression → List String
  | [] => []
  | e :: es => fields e ++ fieldsAll es
end

mutual
/-- How deeply the printed form nests parentheses: each combination in a combination opens one. -/
def depth : Expression → Nat
  | .comparison .. => 0
  | .combination _ parts => depthAll parts

/-- The largest depth that a list of parts needs. -/
def depthAll : List Expression → Nat
  | [] => 0
  | .comparison .. :: es => depthAll es
  | .combination kind parts :: es => max (1 + depth (.combination kind parts)) (depthAll es)
end

theorem fieldsAll_eq (es : List Expression) : fieldsAll es = es.flatMap fields := by
  induction es with
  | nil => rfl
  | cons e es ih => simp [fieldsAll, ih]

mutual
theorem fields_length : (e : Expression) → e.fields.length = e.count
  | .comparison .. => rfl
  | .combination _ parts => fieldsAll_length parts

theorem fieldsAll_length : (es : List Expression) → (fieldsAll es).length = countAll es
  | [] => rfl
  | e :: es => by simp [fieldsAll, countAll, fields_length e, fieldsAll_length es]
end

/-! ## Equality -/

mutual
/-- The same tree, node for node. -/
def same : Expression → Expression → Bool
  | .comparison f o v, .comparison f' o' v' => f == f' && o == o' && v == v'
  | .combination k es, .combination k' es' => k == k' && sameAll es es'
  | _, _ => false

/-- The same trees in the same order. -/
def sameAll : List Expression → List Expression → Bool
  | [], [] => true
  | e :: es, e' :: es' => same e e' && sameAll es es'
  | _, _ => false
end

mutual
theorem same_iff : (e e' : Expression) → (same e e' = true ↔ e = e')
  | .comparison f o v, .comparison f' o' v' => by simp [same, and_assoc]
  | .combination k es, .combination k' es' => by simp [same, sameAll_iff es es']
  | .comparison .., .combination .. => by simp [same]
  | .combination .., .comparison .. => by simp [same]

theorem sameAll_iff : (es es' : List Expression) → (sameAll es es' = true ↔ es = es')
  | [], [] => by simp [sameAll]
  | e :: es, e' :: es' => by simp [sameAll, same_iff e e', sameAll_iff es es']
  | [], _ :: _ => by simp [sameAll]
  | _ :: _, [] => by simp [sameAll]
end

instance : DecidableEq Expression := fun e e' => decidable_of_iff _ (same_iff e e')

end Expression

end FilterQuery
