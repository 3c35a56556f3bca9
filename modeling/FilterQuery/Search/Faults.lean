/-
# FilterQuery.Search.Faults -- which node of an expression is to blame

An expression need not come from a text, and then a combination in it can have any number of
parts.  A node is at fault by itself if it is a combination of fewer than two parts, or a
comparison that is refused for its field or its value (`QueryBuilder.Offends`); what is wrong
with the parts of a combination is their own fault.

`QueryBuilder.ReportsFirst` says that a translator takes an expression without such a node, and
names the fault of the first one in any other.
-/
import FilterQuery.Expression.Tree
import FilterQuery.Search.Stages

namespace FilterQuery.QueryBuilder

/-- A node is at fault. -/
inductive Offends (b : QueryBuilder) : Expression → Failure → Prop where
  | short {kind : Connective} {parts : List Expression} : parts.length < 2 →
      Offends b (.combination kind parts) (.malformed ⟨0, .tooFewParts kind parts.length⟩)
  | refused {field value : String} {op : Comparator} {failure : Failure} :
      b.Refuses ⟨field, op, value⟩ failure → Offends b (.comparison field op value) failure

/-- Nothing is wrong with a node. -/
def Accepts (b : QueryBuilder) (node : Expression) : Prop :=
  ∀ failure, ¬ b.Offends node failure

/-- A new translator takes an expression if nothing is wrong with any node of it, and reports the
first fault in the order of the nodes if there is one. -/
structure ReportsFirst (b : QueryBuilder) (e : Expression) : Prop where
  ok_iff : (∃ t, b.translator.accept e = .ok t) ↔ ∀ node ∈ e.nodes, b.Accepts node
  error_iff : ∀ failure, b.translator.accept e = .error failure ↔
    ∃ before node behind, e.nodes = before ++ node :: behind ∧
      (∀ d ∈ before, b.Accepts d) ∧ b.Offends node failure
  /-- The fault of a short combination names its separator and the number of its parts. -/
  short : ∀ kind parts failure, b.Offends (.combination kind parts) failure →
    ∃ fault, failure = .malformed fault ∧ fault.position = 0 ∧
      fault.cause.message = "'" ++ kind.separator.toString ++
        "' combinator needs at least two operands, got " ++ toString parts.length

end FilterQuery.QueryBuilder
