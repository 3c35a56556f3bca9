/-
# FilterQuery.Json.Basic -- JSON values

Objects keep their entries in the order in which they were given, a key given
twice included.  Numbers without fraction and exponent are whole, all others
are doubles.  A string whose escapes stand for no characters, an object with such
a key, and a number beyond the range of doubles are values that denote nothing
(`unreadable`).
-/

namespace FilterQuery

/-- A JSON value. -/
inductive Json where
  | null
  | boolean (b : Bool)
  | integer (n : Int)
  | float (x : Float)
  | text (s : String)
  | unreadable
  | array (items : List Json)
  | object (entries : List (String × Json))

end FilterQuery
