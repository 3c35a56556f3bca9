/-
# FilterQuery.Value.Basic -- values of the kinds that fields have

A value is a text, a pattern, a number, a truth value, a timestamp in UTC or a
member of an enumeration.  In a pattern `*` stands for any characters, and a
backslash makes the character behind it stand for itself.
-/
import FilterQuery.Calendar.Timestamp
import FilterQuery.Number.Shortest

namespace FilterQuery

/-- A value that a field can be compared with. -/
inductive Value where
  | text (s : String)
  | pattern (s : String)
  | integer (n : Int64)
  | float (x : Float)
  | boolean (b : Bool)
  | date (t : Calendar.Timestamp)
  | member (s : String)

namespace Value

/-- The value is a pattern. -/
def isPattern : Value → Bool
  | pattern _ => true
  | _ => false

/-- The value as plain text. -/
def print : Value → String
  | text s | pattern s | member s => s
  | integer n => String.ofList (Number.printInt n.toInt)
  | float x => Number.positional x
  | boolean b => if b then "true" else "false"
  | date t => t.print

end Value

end FilterQuery
