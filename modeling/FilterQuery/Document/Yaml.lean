/-
# FilterQuery.Document.Yaml -- documents in YAML

Every scalar is a text, and also a name.  Written without quotes it may be
something else as well: a missing text, a truth value or a number, each in a few
spellings; and with nothing written it is an empty list or record.  Records have
named keys only.
-/
import FilterQuery.Document.Basic
import FilterQuery.Number.Digits
import FilterQuery.Text.Hex
import FilterQuery.Yaml.Basic

namespace FilterQuery.Yaml

/-- The text of a scalar. -/
def text? : Yaml → Option String
  | .scalar _ text => some text
  | _ => none

/-- The spellings of a missing text. -/
def isMissing (text : String) : Bool :=
  ["", "~", "null", "Null", "NULL"].contains text

/-- The truth value that a plain scalar spells. -/
def flagOf? (text : String) : Option Bool :=
  if ["true", "True", "TRUE"].contains text then some true
  else if ["false", "False", "FALSE"].contains text then some false
  else none

/-- The number that digits of a base below 17 spell, at least one of them. -/
def readBase? (base : Nat) (digits : List Char) : Option Nat := do
  let values ← digits.mapM Text.hexValue?
  if values.isEmpty || !values.all (· < base) then none
  else some (values.foldl (fun n digit => base * n + digit) 0)

/-- The number that a plain scalar spells: decimal without zeros in front, or with a prefix for
another base. -/
def naturalOf? (text : List Char) : Option Nat :=
  let unsigned := match text with
    | '+' :: r => r
    | s => s
  match unsigned with
  | '0' :: 'x' :: r => readBase? 16 r
  | '0' :: 'o' :: r => readBase? 8 r
  | '0' :: 'b' :: r => readBase? 2 r
  | '0' :: _ :: _ => none
  | s => readBase? 10 s

/-- The items of a sequence. -/
def items? : Yaml → Option (List Yaml)
  | .sequence items => some items
  | .scalar true "" => some []
  | _ => none

/-- The entries of a mapping, whose keys are scalars. -/
def entries? : Yaml → Option (List (String × Yaml))
  | .mapping entries => entries.mapM fun (key, value) => (text? key).map (·, value)
  | .scalar true "" => some []
  | _ => none

instance : Document Yaml where
  text? := text?
  optionalText?
    | .scalar plain text => some (if plain && isMissing text then none else some text)
    | _ => none
  word? _ := text?
  flag?
    | .scalar true text => flagOf? text
    | _ => none
  natural?
    | .scalar true text => do
      let n ← naturalOf? text.toList
      if n < Number.wordLimit then some n else none
    | _ => none
  items? := items?
  entries? _ := entries?
  table? := entries?
  levels := 128

end FilterQuery.Yaml
