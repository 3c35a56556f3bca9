/-
# FilterQuery.Expression.Selector -- names and dotted selectors

A *name* begins with an ASCII letter or an underscore and goes on with ASCII
letters, digits, underscores and hyphens.  A *selector* is what a filter writes
in front of an operator: a run of name characters and dots in which every part
between dots begins as a name does.
-/

namespace FilterQuery

/-- The first character of a name. -/
def isNameStart (c : Char) : Bool :=
  c.isAlpha || c == '_'

/-- A further character of a name. -/
def isNameChar (c : Char) : Bool :=
  c.isAlphanum || c == '_' || c == '-'

/-- A whole text is one name. -/
def isName : List Char → Bool
  | [] => false
  | c :: r => isNameStart c && r.all isNameChar

namespace Selector

/-- A character of a selector. -/
def isSelectorChar (c : Char) : Bool :=
  c.isAlphanum || c == '_' || c == '-' || c == '.'

/-- The parts of a text between its dots; there is always at least one. -/
def segments : List Char → List (List Char)
  | [] => [[]]
  | c :: r =>
    if c == '.' then [] :: segments r
    else match segments r with
      | [] => [[c]]
      | part :: parts => (c :: part) :: parts

/-- A part begins as a name does. -/
def startsAsName : List Char → Bool
  | [] => false
  | c :: _ => isNameStart c

/-- Every part of a run of selector characters begins as a name does. -/
def isWellFormed (run : List Char) : Bool :=
  (segments run).all startsAsName

/-- One or more names, with dots between them. -/
def IsDotted (s : String) : Prop :=
  ∃ names : List String,
    names ≠ [] ∧ (∀ name ∈ names, isName name.toList = true) ∧ s = ".".intercalate names

end Selector

end FilterQuery
