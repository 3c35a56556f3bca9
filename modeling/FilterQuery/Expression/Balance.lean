/-
# FilterQuery.Expression.Balance -- which parentheses of a text belong together

Parentheses are counted outside quoted values.  The count goes through a text one character at a
time; it knows where it is (`Place`) and how many groups are open there (`Nesting`), and it ends at
a parenthesis that closes none.

A text is *balanced* if it can be counted to its end and no group is open there.  A parenthesis is
matched by another one if the text between the two is balanced (`Closed`, `Opened`).

`BlamesGroups` says when the faults that speak of parentheses are true: `unopenedGroup` always is,
and `unclosedGroup` unless something that cannot stand behind a filter is in the way of the
parenthesis that closes the group (`StrayInside`).
-/
import FilterQuery.Expression.Grammar
import FilterQuery.Expression.Malformed

namespace FilterQuery.Expression

open FilterQuery.Text

/-! ## Counting -/

/-- Outside quoted values, in one that ends at `quote`, or there behind a backslash. -/
inductive Place where
  | outside
  | quoted (quote : Char)
  | escaped (quote : Char)
  deriving DecidableEq, Repr

namespace Place

/-- The place behind one more character. -/
def next : Place → Char → Place
  | outside, c => if isQuote c then quoted c else outside
  | quoted quote, c =>
    if c = '\\' then escaped quote else if c = quote then outside else quoted quote
  | escaped quote, _ => quoted quote

/-- The place behind a text. -/
def after (place : Place) (s : List Char) : Place :=
  s.foldl next place

end Place

/-- A place, and the number of groups that are open there. -/
structure Nesting where
  place : Place
  depth : Nat
  deriving DecidableEq, Repr

namespace Nesting

/-- Outside quoted values and groups. -/
def start : Nesting :=
  ⟨.outside, 0⟩

/-- The count behind one more character, unless that closes a group and none is open. -/
def next? (n : Nesting) (c : Char) : Option Nesting :=
  if n.place = .outside ∧ c = '(' then some ⟨.outside, n.depth + 1⟩
  else if n.place = .outside ∧ c = ')' then
    match n.depth with
    | 0 => none
    | depth + 1 => some ⟨.outside, depth⟩
  else some ⟨n.place.next c, n.depth⟩

/-- The count behind a text. -/
def after? (n : Nesting) (s : List Char) : Option Nesting :=
  s.foldlM next? n

end Nesting

/-! ## Matching -/

/-- All groups and quoted values that begin in a text end in it, and none ends that does not. -/
def Balanced (s : List Char) : Prop :=
  Nesting.start.after? s = some .start

instance (s : List Char) : Decidable (Balanced s) :=
  inferInstanceAs (Decidable (_ = _))

/-- A group that `after` stands behind the parenthesis of is closed in it. -/
def Closed (after : List Char) : Prop :=
  ∃ inside behind, after = inside ++ ')' :: behind ∧ Balanced inside

/-- A parenthesis behind `before` closes a group that is opened in it. -/
def Opened (before : List Char) : Prop :=
  ∃ front inside, before = front ++ '(' :: inside ∧ Place.outside.after front = .outside ∧
    Balanced inside

/-- The character at a byte offset outside quoted values, and the texts on both sides of it. -/
structure StandsAt (text : String) (position : Nat) (before : List Char) (c : Char)
    (after : List Char) : Prop where
  split : text.toList = before ++ c :: after
  offset : byteLength before = position
  outside : Place.outside.after before = .outside

/-! ## Faults -/

/-- A filter, however deep its groups nest. -/
def IsFilter (s : List Char) : Prop :=
  ∃ limit e, Derives limit s e

/-- Neither a blank nor a character that may stand behind a filter or in a longer one. -/
def isStray (c : Char) : Bool :=
  !isBlank c && c != ';' && c != ',' && c != ')'

/-- A filter begins a group, and a stray character is in the way of the parenthesis that closes
it. -/
def StrayInside (after : List Char) : Prop :=
  ∃ inside c rest, after = inside ++ c :: rest ∧ IsFilter inside ∧ isStray c = true ∧
    Closed (c :: rest)

/-- What the faults that speak of parentheses, or of a character between them, say of a text. -/
structure BlamesGroups (text : String) (fault : Malformed) : Prop where
  /-- Blamed is a closing parenthesis, and no group is open that it could close. -/
  unopened : fault.cause = .unopenedGroup →
    ∃ before after, StandsAt text fault.position before ')' after ∧ ¬ Opened before
  /-- Blamed is an opening parenthesis, and its group is closed only behind a stray character. -/
  unclosed : fault.cause = .unclosedGroup →
    ∃ before after, StandsAt text fault.position before '(' after ∧
      (Closed after ↔ StrayInside after)
  /-- Blamed is a stray character behind a whole filter, and no group is open there. -/
  unexpected : ∀ c, fault.cause = .unexpected c →
    ∃ before after, StandsAt text fault.position before c after ∧ isStray c = true ∧
      IsFilter before ∧ Balanced before

end FilterQuery.Expression
