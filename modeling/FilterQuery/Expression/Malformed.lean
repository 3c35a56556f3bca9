/-
# FilterQuery.Expression.Malformed -- what can be wrong with a filter text

`SyntaxCause` names the fault, `Malformed` adds the byte offset at which the
text is to blame.  The wording of each fault is in `SyntaxCause.message` alone.
-/
import FilterQuery.Expression.Basic

namespace FilterQuery

/-- A violation of the filter grammar, or of the shape of a tree. -/
inductive SyntaxCause where
  | emptyText
  | missingOperand
  | danglingSeparator (separator : Char)
  | closedTooEarly
  | tooDeep (limit : Nat)
  | unclosedGroup
  | unopenedGroup
  | unexpected (found : Char)
  | missingSelector
  | invalidSelector (selector : String)
  | unknownOperator (name : String)
  | missingOperator (field : String)
  | unterminatedQuote
  | quoteInsideValue
  | missingValue (field : String)
  | unknownToken (token : String)
  | tooFewParts (kind : Connective) (found : Nat)
  deriving DecidableEq, Repr

namespace SyntaxCause

/-- The wording of each fault. -/
def message : SyntaxCause → String
  | emptyText => "Empty expression"
  | missingOperand => "Expected a comparison or '(' but reached end of input"
  | danglingSeparator c => "Dangling combinator '" ++ c.toString ++ "'"
  | closedTooEarly => "Expected a comparison but found ')'"
  | tooDeep limit => "Groups nested deeper than " ++ toString limit ++ " levels"
  | unclosedGroup => "Unbalanced '(' without matching ')'"
  | unopenedGroup => "Unbalanced ')' without matching '('"
  | unexpected c => "Unexpected character '" ++ c.toString ++ "'"
  | missingSelector => "Expected a field selector"
  | invalidSelector s => "Invalid field selector '" ++ s ++ "'"
  | unknownOperator name => "Unknown operator '=" ++ name ++ "='"
  | missingOperator field => "Expected a comparison operator after '" ++ field ++ "'"
  | unterminatedQuote => "Unterminated quoted value"
  | quoteInsideValue => "Quotes must enclose the whole value"
  | missingValue field => "Missing value for '" ++ field ++ "'"
  | unknownToken token => "Invalid comparison operator: " ++ token
  | tooFewParts kind found =>
    "'" ++ kind.separator.toString ++ "' combinator needs at least two operands, got " ++
      toString found

end SyntaxCause

/-- A fault and the byte offset where the text is to blame. -/
structure Malformed where
  position : Nat
  cause : SyntaxCause
  deriving DecidableEq, Repr

/-- The comparator that a whole text names, or the fault that it names none. -/
def Comparator.ofText (s : String) : Except Malformed Comparator :=
  match ofText? s with
  | some op => .ok op
  | none => .error ⟨0, .unknownToken s⟩

end FilterQuery
