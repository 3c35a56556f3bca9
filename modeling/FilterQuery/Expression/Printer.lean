/-
# FilterQuery.Expression.Printer -- the canonical text of a filter

A comparison is its field, the canonical token and the argument.  The parts of
a combination stand between separators, and a part that is itself a combination
stands in parentheses, also where precedence would not ask for them.

An argument is written bare unless it is empty, begins or ends with a blank, or
holds a character that has a meaning of its own (`isReserved`); then it stands
in double quotes, with a backslash before each double quote and backslash.
-/
import FilterQuery.Expression.Basic
import FilterQuery.Text.Blank

namespace FilterQuery.Expression

open FilterQuery.Text

/-- The two characters that enclose a value. -/
def isQuote (c : Char) : Bool :=
  c == '\'' || c == '"'

/-- The characters that end a bare value. -/
def isDelimiter (c : Char) : Bool :=
  c == '(' || c == ')' || c == ';' || c == ','

/-- The characters that no bare value holds. -/
def isReserved (c : Char) : Bool :=
  isDelimiter c || isQuote c

/-- Whether a value can only be written in quotes. -/
def needsQuotes (value : List Char) : Bool :=
  value.isEmpty || trim value != value || value.any isReserved

/-- A backslash before each double quote and each backslash. -/
def escape : List Char → List Char
  | [] => []
  | c :: r => if c == '"' || c == '\\' then '\\' :: c :: escape r else c :: escape r

/-- A value as it stands behind its operator. -/
def argument (value : List Char) : List Char :=
  if needsQuotes value then '"' :: escape value ++ ['"'] else value

mutual
/-- The canonical text as characters. -/
def chars : Expression → List Char
  | .comparison field op value => field.toList ++ op.text.toList ++ argument value.toList
  | .combination kind parts => charsAll kind parts

/-- The parts of a combination with separators between them. -/
def charsAll (kind : Connective) : List Expression → List Char
  | [] => []
  | [e] => operandChars e
  | e :: es => operandChars e ++ kind.separator :: charsAll kind es

/-- A part of a combination, in parentheses if it is one itself. -/
def operandChars : Expression → List Char
  | .comparison field op value => field.toList ++ op.text.toList ++ argument value.toList
  | .combination kind parts => '(' :: charsAll kind parts ++ [')']
end

/-- The canonical text. -/
def print (e : Expression) : String :=
  String.ofList e.chars

end FilterQuery.Expression
