/-
# FilterQuery.Text.Parsed -- what a reading step gives

A reader of texts takes the characters that are left and gives a value with the
characters that are then left.  These are fewer, and the proof of that
(`Parsed.shorter`) is what makes loops of readers end.
-/

namespace FilterQuery.Text

/-- A value read from the front of `s`, and the shorter text behind it. -/
structure Parsed (α : Type) (s : List Char) where
  value : α
  rest : List Char
  shorter : rest.length < s.length

namespace Parsed

/-- The same step with another value. -/
def map {α β : Type} {s : List Char} (f : α → β) (p : Parsed α s) : Parsed β s :=
  ⟨f p.value, p.rest, p.shorter⟩

/-- A step is also a step from a longer text. -/
def widen {α : Type} {s t : List Char} (p : Parsed α s) (h : s.length ≤ t.length) : Parsed α t :=
  ⟨p.value, p.rest, Nat.lt_of_lt_of_le p.shorter h⟩

end Parsed

/-- The first character of a text. -/
def first? : (s : List Char) → Option (Parsed Char s)
  | [] => none
  | c :: r => some ⟨c, r, Nat.lt_succ_self _⟩

end FilterQuery.Text
