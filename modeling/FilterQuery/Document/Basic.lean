/-
# FilterQuery.Document.Basic -- what a definition asks of a data format

Schemas and settings can be written in more than one format.  Their readers see
a node of a document only through `Document`: what it is as a text, a truth
value, a number, a list, a record with known keys or a table with free ones.
Formats differ in what they take for each of these, and in how many containers
they let a reader open within each other (`levels`).

`required`, `optional` and `withDefault` pick the entry of a record with a key;
a key that is given twice is refused, and so are the values that do not fit.
-/

namespace FilterQuery

/-- A node of a document in some format. -/
class Document (α : Type) where
  /-- The node as a text. -/
  text? : α → Option String
  /-- The node as a text that may be missing. -/
  optionalText? : α → Option (Option String)
  /-- The node as a name out of a fixed set, if so many containers may still be opened. -/
  word? : (levels : Nat) → α → Option String
  /-- The node as a truth value. -/
  flag? : α → Option Bool
  /-- The node as a number that fits 64 bits without sign. -/
  natural? : α → Option Nat
  /-- The node as a list. -/
  items? : α → Option (List α)
  /-- The node as a record with these keys, in the order in which they stand without names. -/
  entries? : List String → α → Option (List (String × α))
  /-- The node as a table. -/
  table? : α → Option (List (String × α))
  /-- How many containers may be opened within each other. -/
  levels : Nat

namespace Document

variable {α β : Type}

/-- The values given for a key. -/
def valuesOf (key : String) (entries : List (String × α)) : List α :=
  (entries.filter (·.1 == key)).map (·.2)

/-- The entry with a key that must be there. -/
def required (entries : List (String × α)) (key : String) (read : α → Option β) : Option β :=
  match valuesOf key entries with
  | [value] => read value
  | _ => none

/-- The entry with a key that may be missing. -/
def withDefault (entries : List (String × α)) (key : String) (default : β)
    (read : α → Option β) : Option β :=
  match valuesOf key entries with
  | [] => some default
  | [value] => read value
  | _ => none

variable [Document α]

/-- A list whose items are all of one shape, if another container may be opened. -/
def list? (levels : Nat) (read : α → Option β) (node : α) : Option (List β) :=
  match levels with
  | 0 => none
  | _ + 1 => do (← items? node).mapM read

/-- A text of exactly one character. -/
def character? (node : α) : Option Char := do
  match (← text? node).toList with
  | [c] => some c
  | _ => none

end Document

end FilterQuery
