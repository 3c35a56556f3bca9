/-
# FilterQuery.Document.Json -- documents in JSON

A text is a string, a missing text `null`, a number a whole number without
fraction or exponent.  A record may also be an array, whose items are then the
values of its keys in their order.  A name out of a fixed set may also be the
only key of an object, over `null`.
-/
import FilterQuery.Document.Basic
import FilterQuery.Json.Basic
import FilterQuery.Number.Digits

namespace FilterQuery.Json

/-- The string of a value. -/
def text? : Json → Option String
  | .text s => some s
  | _ => none

/-- The items of an array. -/
def items? : Json → Option (List Json)
  | .array items => some items
  | _ => none

/-- The entries of an object. -/
def entries? : Json → Option (List (String × Json))
  | .object entries => some entries
  | _ => none

/-- The only entry of an object. -/
def single? : Json → Option (String × Json)
  | .object [entry] => some entry
  | _ => none

/-- A name: a string, or the only key of an object over `null`. -/
def word? : Json → Option String
  | .text s => some s
  | .object [(key, .null)] => some key
  | _ => none

instance : Document Json where
  text? := text?
  optionalText?
    | .null => some none
    | value => (text? value).map some
  word?
    | 0, .object _ => none
    | _, node => word? node
  flag?
    | .boolean b => some b
    | _ => none
  natural?
    | .integer n => if 0 ≤ n && n < Number.wordLimit then some n.toNat else none
    | _ => none
  items? := items?
  entries? keys
    | .object entries => some entries
    | .array items => if items.length ≤ keys.length then some (keys.zip items) else none
    | _ => none
  table? := entries?
  levels := 127

end FilterQuery.Json
