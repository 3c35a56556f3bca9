/-
# FilterQuery.Failure -- why a filter gives no query

A filter can be malformed, name a field that cannot be searched, use an operator
that its field does not have, or hold a value that its field cannot take; and a
translator can be asked for the wrong thing at the wrong time.  The wording is
in `Failure.message` alone.

Beside these, which are reported, the calculation of a value can overflow.  Then
everything breaks off, and nothing is reported.
-/
import FilterQuery.Expression.Malformed
import FilterQuery.Schema.Field

namespace FilterQuery

/-- What may help someone who named an unknown field. -/
inductive Hint where
  | notSearchable
  | nestedObject
  | similar (candidate : String)
  deriving DecidableEq, Repr

/-- The wording of a hint. -/
def Hint.message : Hint → String
  | notSearchable => "field is not searchable"
  | nestedObject => "refers to a nested object, select one of its attributes"
  | similar candidate => "did you mean '" ++ candidate ++ "'?"

/-- Why an operator does not suit a field. -/
inductive Restriction where
  | equalityOnly
  | wildcardsEqualityOnly
  deriving DecidableEq, Repr

/-- The wording of a restriction. -/
def Restriction.message : Restriction → String
  | equalityOnly => "only == and != are supported"
  | wildcardsEqualityOnly => "wildcard values only support == and !="

/-- What a field would have taken. -/
inductive Expectation where
  | truthValue
  | memberOf (members : List String)
  | integer
  | number
  | size
  | date (patterns : List String)
  deriving DecidableEq, Repr

/-- The wording of an expectation. -/
def Expectation.message : Expectation → String
  | truthValue => "true or false"
  | memberOf members => "one of " ++ ", ".intercalate members
  | integer => "integer"
  | number => "number"
  | size => "size in bytes"
  | date patterns => "date (" ++ " or ".intercalate ("RFC 3339" :: patterns) ++ ")"

/-- Why a filter gives no query. -/
inductive Failure where
  | malformed (fault : Malformed)
  | unknownField (token : String) (hint : Option Hint)
  | invalidOperator (field : String) (op : Comparator) (kind : ValueKind) (reason : Restriction)
  | unfitValue (field value : String) (expected : Expectation)
  | overflow
  | alreadyTranslated
  | notTranslated
  deriving DecidableEq, Repr

/-- The wording of a malformed filter. -/
def Malformed.message (m : Malformed) : String :=
  "Malformed expression at " ++ toString m.position ++ ": " ++ m.cause.message

/-- The wording of a failure; an overflow has none. -/
def Failure.message : Failure → String
  | malformed fault => fault.message
  | unknownField token (some hint) => "Unknown field: " ++ token ++ " (" ++ hint.message ++ ")"
  | unknownField token none => "Unknown field: " ++ token
  | invalidOperator field op kind reason =>
    "Invalid operator " ++ op.text ++ " for " ++ kind.name ++ " field " ++ field ++ ": " ++
      reason.message
  | unfitValue field value expected =>
    "Cannot convert value '" ++ value ++ "' for field " ++ field ++ ": expected " ++
      expected.message
  | overflow => ""
  | alreadyTranslated =>
    "Illegal state: translator already produced a query, create a new one"
  | notTranslated => "Illegal state: no query has been translated yet"

end FilterQuery
