/-
# FilterQuery.Yaml.Token -- YAML texts as tokens

A `Lexer` goes through a text and collects tokens.  Outside brackets structure
comes from indentation: an item or a key further to the right than the columns
that are open opens a collection, and whatever begins further to the left
closes those that it leaves.

A scalar or a bracket may turn out to be a key only when a colon follows it on
its line and not too far behind.  Until then its place is remembered, one for each
level of brackets (`keys`), and the colon puts the token of the key in front of
it.  Outside brackets a scalar at the column of the open mapping must be a key.

Scalars in blocks, anchors, aliases, tags and directives are not supported.
-/
import FilterQuery.Yaml.Scalar

namespace FilterQuery.Yaml

/-- A piece of the structure of a document. -/
inductive Token where
  | documentStart
  | documentEnd
  | blockSequenceStart
  | blockMappingStart
  | blockEnd
  | flowSequenceStart
  | flowSequenceEnd
  | flowMappingStart
  | flowMappingEnd
  | entry
  | comma
  | key
  | value
  | scalar (plain : Bool) (text : String)

/-- The place of something that may turn out to be a key. -/
structure PossibleKey where
  required : Bool
  place : Nat
  index : Nat
  line : Nat
  column : Nat

/-- The tokens so far and what decides about the next one: the column of the innermost open
collection and those around it, a possible key for each level of brackets, and whether a key may
begin here. -/
structure Lexer where
  cursor : Cursor
  tokens : Array Token
  indent : Int
  outer : List Int
  keys : List (Option PossibleKey)
  keyAllowed : Bool

namespace Lexer

/-- Nothing is read. -/
def start (s : List Char) : Lexer :=
  ⟨.start s, #[], -1, [], [none], true⟩

/-- The lexer is inside brackets. -/
def inFlow (l : Lexer) : Bool :=
  1 < l.keys.length

/-- One more token. -/
def push (l : Lexer) (t : Token) : Lexer :=
  { l with tokens := l.tokens.push t }

/-- One more token, written with `n` characters. -/
def take (l : Lexer) (n : Nat) (t : Token) : Lexer :=
  { l.push t with cursor := l.cursor.skip n }

/-- The lexer behind blanks, comments and line breaks.  A new line outside brackets may begin with
a key, and tabs do not count as blanks where a key may begin there.  A byte order mark at the
beginning of a line is a blank, and like one it takes a column. -/
def toNextToken (l : Lexer) : Lexer :=
  match _h : l.cursor.rest with
  | [] => l
  | c :: _ =>
    let isSkipped := c == ' ' || (c == '\t' && (l.inFlow || !l.keyAllowed)) ||
      (c == '\uFEFF' && l.cursor.column == 0)
    if isSkipped then
      toNextToken { l with cursor := l.cursor.skip 1 }
    else if c == '#' then
      let next := { l with cursor := l.cursor.skipComment }
      if next.cursor.rest.length < l.cursor.rest.length then toNextToken next else next
    else if isBreak c then
      toNextToken
        { l with cursor := l.cursor.skipBreak, keyAllowed := l.keyAllowed || !l.inFlow }
    else l
termination_by l.cursor.rest.length
decreasing_by
  · exact Cursor.skip_length ‹_› (by decide)
  · assumption
  · exact Cursor.skipBreak_length ‹_›

/-! ## Keys -/

/-- A place too far back, or on a line before, is no key; it is a fault if it had to be one. -/
def dropStale (l : Lexer) : Option Lexer := do
  let keys ← l.keys.mapM fun key? =>
    match key? with
    | none => some none
    | some key =>
      if key.line < l.cursor.line || key.index + 1024 < l.cursor.index then
        if key.required then none else some none
      else some (some key)
  some { l with keys := keys }

/-- The last possible key is none after all. -/
def dropKey (l : Lexer) : Option Lexer :=
  match l.keys with
  | some key :: keys => if key.required then none else some { l with keys := none :: keys }
  | _ => some l

/-- What begins here may turn out to be a key. -/
def noteKey (l : Lexer) : Option Lexer :=
  if l.keyAllowed then do
    let l ← l.dropKey
    let key : PossibleKey :=
      { required := !l.inFlow && l.indent == Int.ofNat l.cursor.column
        place := l.tokens.size
        index := l.cursor.index
        line := l.cursor.line
        column := l.cursor.column }
    some { l with keys := some key :: l.keys.drop 1 }
  else some l

/-! ## Indentation -/

/-- Opens a collection at a column, if it lies to the right of what is open; its token goes to
the given place. -/
def openBlock (l : Lexer) (column place : Nat) (t : Token) : Lexer :=
  if !l.inFlow && l.indent < Int.ofNat column then
    { l with
      indent := Int.ofNat column
      outer := l.indent :: l.outer
      tokens := l.tokens.insertIdxIfInBounds place t }
  else l

/-- The columns that stay open for something at `column`, and how many collections are closed. -/
def closing (column : Int) : Int → List Int → Nat × Int × List Int
  | indent, [] => (0, indent, [])
  | indent, next :: outer =>
    if column < indent then
      let (count, indent, outer) := closing column next outer
      (count + 1, indent, outer)
    else (0, indent, next :: outer)

/-- Closes the collections that something at `column` leaves. -/
def closeBlocks (l : Lexer) (column : Int) : Lexer :=
  if l.inFlow then l
  else
    let (count, indent, outer) := closing column l.indent l.outer
    { l with
      indent := indent, outer := outer
      tokens := l.tokens ++ (List.replicate count Token.blockEnd).toArray }

/-! ## Tokens -/

/-- A mark between documents. -/
def documentMark (l : Lexer) (t : Token) : Option Lexer := do
  let l ← (l.closeBlocks (-1)).dropKey
  some { l.take 3 t with keyAllowed := false }

/-- An opening bracket. -/
def openFlow (l : Lexer) (t : Token) : Option Lexer := do
  let l ← l.noteKey
  some { l.take 1 t with keys := none :: l.keys, keyAllowed := true }

/-- A closing bracket. -/
def closeFlow (l : Lexer) (t : Token) : Option Lexer := do
  let l ← l.dropKey
  let keys := if l.inFlow then l.keys.drop 1 else l.keys
  some { l.take 1 t with keys := keys, keyAllowed := false }

/-- A comma. -/
def comma (l : Lexer) : Option Lexer := do
  let l ← l.dropKey
  some { l.take 1 .comma with keyAllowed := true }

/-- The hyphen of an item. -/
def entry (l : Lexer) : Option Lexer :=
  if !l.inFlow && !l.keyAllowed then none
  else do
    let l ← (l.openBlock l.cursor.column l.tokens.size .blockSequenceStart).dropKey
    some { l.take 1 .entry with keyAllowed := true }

/-- The question mark of a key. -/
def explicitKey (l : Lexer) : Option Lexer :=
  if !l.inFlow && !l.keyAllowed then none
  else do
    let l ← (l.openBlock l.cursor.column l.tokens.size .blockMappingStart).dropKey
    some { l.take 1 .key with keyAllowed := !l.inFlow }

/-- The colon of a value: what was a possible key is one now. -/
def value (l : Lexer) : Option Lexer :=
  match l.keys with
  | some key :: keys =>
    let withKey :=
      { l with tokens := l.tokens.insertIdxIfInBounds key.place .key, keys := none :: keys }
    let l := withKey.openBlock key.column key.place .blockMappingStart
    some { l.take 1 .value with keyAllowed := false }
  | _ =>
    if !l.inFlow && !l.keyAllowed then none
    else
      let l := l.openBlock l.cursor.column l.tokens.size .blockMappingStart
      some { l.take 1 .value with keyAllowed := !l.inFlow }

/-- A scalar in quotes. -/
def quoted (l : Lexer) (quote : Char) : Option Lexer := do
  let l ← l.noteKey
  let (text, cursor) ← scanQuoted quote (l.cursor.skip 1)
  some { l.push (.scalar false (String.ofList text)) with cursor := cursor, keyAllowed := false }

/-- A scalar without quotes. -/
def plain (l : Lexer) : Option Lexer := do
  let l ← l.noteKey
  let (text, cursor, broken) ← scanPlain l.inFlow (l.indent + 1) .empty l.cursor
  some { l.push (.scalar true (String.ofList text)) with cursor := cursor, keyAllowed := broken }

/-- The characters with which no plain scalar begins, three apart that need a gap behind them to
mean something. -/
def isIndicator (c : Char) : Bool :=
  c == ',' || c == '[' || c == ']' || c == '\x7b' || c == '\x7d' || c == '#' || c == '&' ||
    c == '*' || c == '!' || c == '|' || c == '>' || c == '\'' || c == '"' || c == '%' ||
    c == '@' || c == '\x60'

/-- The token that begins with `c`, if there is one. -/
def token (l : Lexer) (c : Char) : Option Lexer :=
  let gap := isGap (l.cursor.peek 1)
  if c == '%' && l.cursor.column == 0 then none
  else if l.cursor.atDocumentMark then
    l.documentMark (if c == '-' then .documentStart else .documentEnd)
  else if c == '[' then l.openFlow .flowSequenceStart
  else if c == '\x7b' then l.openFlow .flowMappingStart
  else if c == ']' then l.closeFlow .flowSequenceEnd
  else if c == '\x7d' then l.closeFlow .flowMappingEnd
  else if c == ',' then l.comma
  else if c == '-' && gap then l.entry
  else if c == '?' && (l.inFlow || gap) then l.explicitKey
  else if c == ':' && (l.inFlow || gap) then l.value
  else if c == '\'' || c == '"' then l.quoted c
  else if isIndicator c || isBlank c then none
  else l.plain

/-- The lexer behind all tokens. -/
def run (l : Lexer) : Option Lexer := do
  let l' ← l.toNextToken.dropStale
  match l'.cursor.rest with
  | [] =>
    let lastLine :=
      if l'.cursor.column = 0 then l'.cursor
      else { l'.cursor with line := l'.cursor.line + 1, column := 0 }
    ({ l' with cursor := lastLine }.closeBlocks (-1)).dropKey
  | c :: _ =>
    let next ← (l'.closeBlocks l'.cursor.column).token c
    if next.cursor.rest.length < l.cursor.rest.length then next.run else none
termination_by l.cursor.rest.length

end Lexer

/-- The tokens of a YAML text. -/
def tokens? (s : List Char) : Option (List Token) :=
  if s.all isAllowed then (Lexer.start s).run.map (·.tokens.toList) else none

end FilterQuery.Yaml
