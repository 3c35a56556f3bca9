/-
# FilterQuery.Yaml.Cursor -- places in a YAML text

A cursor is the text that is left and the place where it begins.  Lines end with
a line feed, a carriage return or both, or with one of three characters that
are breaks in Unicode; a scalar keeps the last two of these and turns
all others into line feeds.
-/

namespace FilterQuery.Yaml

/-- A space or a tab. -/
def isBlank (c : Char) : Bool :=
  c == ' ' || c == '\t'

/-- A character that ends a line. -/
def isBreak (c : Char) : Bool :=
  c == '\n' || c == '\r' || c == '\x85' || c == '\u2028' || c == '\u2029'

/-- What a line break is inside a scalar. -/
def breakChar (c : Char) : Char :=
  if c == '\u2028' || c == '\u2029' then c else '\n'

/-- A space, a tab, a line break, or the end of the text. -/
def isGap : Option Char → Bool
  | none => true
  | some c => isBlank c || isBreak c

/-- The characters that may stand in a YAML text. -/
def isAllowed (c : Char) : Bool :=
  let n := c.toNat
  n == 0x09 || n == 0x0A || n == 0x0D || (0x20 ≤ n && n ≤ 0x7E) || n == 0x85 ||
    (0xA0 ≤ n && n ≤ 0xD7FF) || (0xE000 ≤ n && n ≤ 0xFFFD) || 0x10000 ≤ n

/-- The text that is left, and the place where it begins. -/
structure Cursor where
  rest : List Char
  index : Nat
  line : Nat
  column : Nat

namespace Cursor

/-- The beginning of a text. -/
def start (s : List Char) : Cursor :=
  ⟨s, 0, 0, 0⟩

/-- The character `n` places ahead. -/
def peek (c : Cursor) (n : Nat) : Option Char :=
  c.rest[n]?

/-- `n` characters further on the same line. -/
def skip (c : Cursor) (n : Nat) : Cursor :=
  ⟨c.rest.drop n, c.index + n, c.line, c.column + n⟩

/-- Behind a line break. -/
def skipBreak (c : Cursor) : Cursor :=
  match c.rest with
  | '\r' :: '\n' :: r => ⟨r, c.index + 2, c.line + 1, 0⟩
  | r => ⟨r.drop 1, c.index + 1, c.line + 1, 0⟩

/-- Behind the characters of a comment. -/
def skipComment (c : Cursor) : Cursor :=
  c.skip (c.rest.takeWhile (!isBreak ·)).length

/-- Three hyphens or three points alone at the beginning of a line. -/
def atDocumentMark (c : Cursor) : Bool :=
  c.column == 0 && isGap (c.peek 3) &&
    (c.rest.take 3 == ['-', '-', '-'] || c.rest.take 3 == ['.', '.', '.'])

theorem skip_length {c : Cursor} {n : Nat} {d : Char} {r : List Char} (h : c.rest = d :: r)
    (positive : 0 < n) : (c.skip n).rest.length < c.rest.length := by
  simp only [skip, h, List.length_drop, List.length_cons]
  omega

theorem skipBreak_length {c : Cursor} {d : Char} {r : List Char} (h : c.rest = d :: r) :
    c.skipBreak.rest.length < c.rest.length := by
  unfold skipBreak
  split
  · next same => simp only [same, List.length_cons]; omega
  · simp [h]

end Cursor

end FilterQuery.Yaml
