/-
# FilterQuery.Expression.Reading -- what texts are read as

A text that is a selector is read as one wherever a comparison may begin (`ReadAsSelector`).

A limit of groups decides which texts are read at all, but not what they are read as: under a higher
limit a text means the same, or a group in it was too deep before (`OnlyTooDeep`).
-/
import FilterQuery.Expression.Grammar
import FilterQuery.Expression.Parser

namespace FilterQuery.Expression

/-- A text is read as the selector that it is, in front of every token and every argument that does
not go on with the token. -/
def ReadAsSelector (limit : Nat) (field : String) : Prop :=
  ∀ entry ∈ Comparator.spellings, ∀ argument value : String,
    ArgumentText argument.toList value.toList → argument.toList.head? ≠ some '=' →
      parse limit (field ++ entry.1 ++ argument) = .ok (.comparison field entry.2 value)

/-- The fault is a group beyond the limit, and a parenthesis of the text is to blame for it. -/
structure IsTooDeep (limit : Nat) (text : String) (fault : Malformed) : Prop where
  opens : ∃ before behind : String, text = before ++ "(" ++ behind ∧
    fault.position = before.utf8ByteSize
  cause : fault.cause = .tooDeep limit
  message : fault.cause.message = "Groups nested deeper than " ++ toString limit ++ " levels"

/-- What a text is read as under a limit, and under a higher one. -/
structure OnlyTooDeep (limit higher : Nat) (text : String) : Prop where
  /-- The results are the same, faults and their places included, or a group is too deep. -/
  same_or_deep : parse limit text = parse higher text ∨
    ∃ fault, parse limit text = .error fault ∧ IsTooDeep limit text fault
  accepted : ∀ e, parse limit text = .ok e → parse higher text = .ok e
  refused : ∀ e fault, parse higher text = .ok e → parse limit text = .error fault →
    IsTooDeep limit text fault

end FilterQuery.Expression
