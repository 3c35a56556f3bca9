/-
# FilterQuery.Json.Printer -- the compact text of a JSON value

There are no blanks between tokens.  In strings the quote, the backslash and the
characters below the space are escaped, by a letter if they have one; all others
stand for themselves.  Doubles that are no number are written as `null`.
-/
import FilterQuery.Json.Basic
import FilterQuery.Number.Shortest

namespace FilterQuery.Json

/-- One character inside a string. -/
def escaped (c : Char) : String :=
  if c == '"' then "\\\""
  else if c == '\\' then "\\\\"
  else if c == '\n' then "\\n"
  else if c == '\r' then "\\r"
  else if c == '\t' then "\\t"
  else if c == '\x08' then "\\b"
  else if c == '\x0c' then "\\f"
  else if c.toNat < 16 then "\\u000" ++ String.ofList (Nat.toDigits 16 c.toNat)
  else if c.toNat < 32 then "\\u00" ++ String.ofList (Nat.toDigits 16 c.toNat)
  else c.toString

/-- A string in quotes. -/
def printText (s : String) : String :=
  "\"" ++ String.join (s.toList.map escaped) ++ "\""

/-- A double as JSON writes it. -/
def printFloat (x : Float) : String :=
  match Number.Double.ofFloat? x with
  | some d => String.ofList (Number.scientific d)
  | none => "null"

mutual
/-- The compact text of a value. -/
def print : Json → String
  | .null => "null"
  | .boolean b => if b then "true" else "false"
  | .integer n => String.ofList (Number.printInt n)
  | .float x => printFloat x
  | .text s => printText s
  | .unreadable => printText ""
  | .array items => "[" ++ ",".intercalate (printItems items) ++ "]"
  | .object entries => "\x7b" ++ ",".intercalate (printEntries entries) ++ "\x7d"

/-- The texts of the items of an array. -/
def printItems : List Json → List String
  | [] => []
  | item :: items => print item :: printItems items

/-- The texts of the entries of an object. -/
def printEntries : List (String × Json) → List String
  | [] => []
  | (key, value) :: entries => (printText key ++ ":" ++ print value) :: printEntries entries
end

end FilterQuery.Json
