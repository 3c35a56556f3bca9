/-
# FilterQuery.Yaml.Scalar -- scalars without and with quotes

Blanks between the words of one line are kept.  A line break with the blanks
around it is folded: one becomes a space, and of several the first is dropped.
A plain scalar ends before a comment, a colon with a gap behind it, a mark
between documents, less indentation, and inside brackets before their indicators.
In double quotes a backslash gives characters by letter or by number, and
hides a line break.
-/
import FilterQuery.Text.Hex
import FilterQuery.Yaml.Cursor

namespace FilterQuery.Yaml

/-- The blanks and line breaks between two words. -/
structure Fold where
  blanks : List Char
  breaks : List Char

namespace Fold

/-- Nothing stands between the words. -/
def empty : Fold :=
  ⟨[], []⟩

/-- What the fold is inside the scalar; `hidden` if a backslash has hidden its first break. -/
def text (f : Fold) (hidden : Bool) : List Char :=
  if hidden then f.breaks
  else
    match f.breaks with
    | [] => f.blanks
    | ['\n'] => [' ']
    | '\n' :: more => more
    | breaks => breaks

end Fold

/-- The blanks and breaks at the cursor; `broken` if a line has been ended before.  A tab in the
indentation, left of column `indent`, is refused. -/
def scanFold (indent : Int) (broken : Bool) (c : Cursor) : Option (Fold × Cursor) :=
  match _h : c.rest with
  | [] => some (.empty, c)
  | d :: _ =>
    if isBlank d then
      if broken && d == '\t' && Int.ofNat c.column < indent then none
      else do
        let (fold, final) ← scanFold indent broken (c.skip 1)
        some (if broken then fold else { fold with blanks := d :: fold.blanks }, final)
    else if isBreak d then do
      let (fold, final) ← scanFold indent true c.skipBreak
      some (⟨[], breakChar d :: fold.breaks⟩, final)
    else some (.empty, c)
termination_by c.rest.length
decreasing_by
  · exact Cursor.skip_length ‹_› (by decide)
  · exact Cursor.skipBreak_length ‹_›

/-! ## Plain scalars -/

/-- The characters that end a plain scalar inside brackets. -/
def isFlowIndicator (c : Char) : Bool :=
  c == ',' || c == '[' || c == ']' || c == '\x7b' || c == '\x7d'

/-- A word of a plain scalar; inside brackets no colon may stand before an indicator. -/
def plainWord (flow : Bool) : List Char → Option (List Char)
  | [] => some []
  | c :: r =>
    if isBlank c || isBreak c then some []
    else if flow && c == ':' && r.head?.any fun d => isFlowIndicator d || d == '?' then none
    else if c == ':' && isGap r.head? then some []
    else if flow && isFlowIndicator c then some []
    else (plainWord flow r).map (c :: ·)

/-- The words of a plain scalar and the cursor behind it, and whether the cursor is on a new line.
`before` is the fold in front of the next word. -/
def scanPlain (flow : Bool) (indent : Int) (before : Fold) (c : Cursor) :
    Option (List Char × Cursor × Bool) :=
  let broken := !before.breaks.isEmpty
  if c.atDocumentMark || c.peek 0 == some '#' then some ([], c, broken)
  else
    match plainWord flow c.rest with
    | none => none
    | some [] => some ([], c, broken)
    | some word =>
      let behind := c.skip word.length
      let text := before.text false ++ word
      if !isGap (behind.peek 0) then some (text, behind, false)
      else
        match scanFold indent false behind with
        | none => none
        | some (fold, next) =>
          if !flow && Int.ofNat next.column < indent then
            some (text, next, !fold.breaks.isEmpty)
          else if next.rest.length < c.rest.length then
            (scanPlain flow indent fold next).map fun (more, final) => (text ++ more, final)
          else some (text, next, !fold.breaks.isEmpty)
termination_by c.rest.length

/-! ## Quoted scalars -/

/-- The character whose number is written with exactly `width` hexadecimal digits. -/
def numberedChar? (width : Nat) (s : List Char) : Option Char := do
  let digits ← (s.take width).mapM Text.hexValue?
  let n := digits.foldl (fun n digit => 16 * n + digit) 0
  if digits.length = width && n.isValidChar then some (Char.ofNat n) else none

/-- The character of an escape, and how many characters the escape takes behind the backslash. -/
def escape? : List Char → Option (Char × Nat)
  | [] => none
  | c :: r =>
    match c with
    | '0' => some ('\x00', 1)
    | 'a' => some ('\x07', 1)
    | 'b' => some ('\x08', 1)
    | 't' => some ('\t', 1)
    | '\t' => some ('\t', 1)
    | 'n' => some ('\n', 1)
    | 'v' => some ('\x0b', 1)
    | 'f' => some ('\x0c', 1)
    | 'r' => some ('\r', 1)
    | 'e' => some ('\x1b', 1)
    | ' ' => some (' ', 1)
    | '"' => some ('"', 1)
    | '/' => some ('/', 1)
    | '\\' => some ('\\', 1)
    | 'N' => some ('\x85', 1)
    | '_' => some ('\xa0', 1)
    | 'L' => some ('\u2028', 1)
    | 'P' => some ('\u2029', 1)
    | 'x' => (numberedChar? 2 r).map (·, 3)
    | 'u' => (numberedChar? 4 r).map (·, 5)
    | 'U' => (numberedChar? 8 r).map (·, 9)
    | _ => none

/-- The characters up to the closing quote, and the cursor behind it. -/
def scanQuoted (quote : Char) (c : Cursor) : Option (List Char × Cursor) :=
  match c.rest with
  | [] => none
  | d :: r =>
    let more (text : List Char) (next : Cursor) : Option (List Char × Cursor) :=
      if next.rest.length < c.rest.length then
        (scanQuoted quote next).map fun (others, final) => (text ++ others, final)
      else none
    if c.atDocumentMark then none
    else if d == quote then
      if quote == '\'' && r.head? == some '\'' then more ['\''] (c.skip 2)
      else some ([], c.skip 1)
    else if isBlank d || isBreak d then
      match scanFold 0 false c with
      | none => none
      | some (fold, next) => more (fold.text false) next
    else if quote == '"' && d == '\\' then
      if r.head?.any isBreak then
        match scanFold 0 true (c.skip 1).skipBreak with
        | none => none
        | some (fold, next) => more (fold.text true) next
      else
        match escape? r with
        | none => none
        | some (e, length) => more [e] (c.skip (1 + length))
    else more [d] (c.skip 1)
termination_by c.rest.length

end FilterQuery.Yaml
