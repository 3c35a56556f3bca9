/-
# FilterQuery.Json.Reader -- reading JSON texts

The grammar is that of RFC 8259 and nothing else: no comments, no comma before a
closing bracket, no zero in front of other digits, no control characters in
strings, and only blanks around the value.

Reading a value counts down the containers that may still be opened, and starts
with more than the text has characters; the loops end because each step leaves a
shorter text.
-/
import FilterQuery.Json.Number
import FilterQuery.Number.Reading
import FilterQuery.Text.Front
import FilterQuery.Text.Hex
import FilterQuery.Text.Parsed

namespace FilterQuery.Json

open FilterQuery.Text

/-- The outcome of reading an `α` from the front of `s`. -/
abbrev Step (α : Type) (s : List Char) :=
  Option (Parsed α s)

/-- A blank between tokens. -/
def isSpace (c : Char) : Bool :=
  c == ' ' || c == '\n' || c == '\t' || c == '\r'

/-- What is left behind the blanks. -/
def dropSpace (s : List Char) : List Char :=
  s.dropWhile isSpace

theorem dropSpace_length_le (s : List Char) : (dropSpace s).length ≤ s.length :=
  (List.dropWhile_suffix isSpace).length_le

/-- The first character behind the blanks. -/
def next? (s : List Char) : Step Char s :=
  (first? (dropSpace s)).map (·.widen (dropSpace_length_le s))

/-- The rest behind a word. -/
def word {α : Type} (text : String) (value : α) (s : List Char) : Step α s :=
  match after? text.toList s with
  | some rest =>
    if h : rest.length < s.length then some ⟨value, rest, h⟩ else none
  | none => none

/-! ## Strings -/

/-- The number of four hexadecimal digits. -/
def hex4? (s : List Char) : Step Nat s :=
  match s with
  | a :: b :: c :: d :: rest =>
    match hexValue? a, hexValue? b, hexValue? c, hexValue? d with
    | some a, some b, some c, some d =>
      some ⟨((a * 16 + b) * 16 + c) * 16 + d, rest, by simp only [List.length_cons]; omega⟩
    | _, _, _, _ => none
  | _ => none

/-- The number behind `\u` at the front of `s`. -/
def unicodeEscape? (s : List Char) : Step Nat s :=
  match s with
  | '\\' :: 'u' :: r => (hex4? r).map (·.widen (by simp only [List.length_cons]; omega))
  | _ => none

/-- The first half of a character beyond the sixteen-bit range. -/
def isHighHalf (n : Nat) : Bool :=
  0xD800 ≤ n && n ≤ 0xDBFF

/-- The second half of such a character. -/
def isLowHalf (n : Nat) : Bool :=
  0xDC00 ≤ n && n ≤ 0xDFFF

/-- The character of an escape by number; `none` as a value is half a character without the other
half. -/
def readUnicode (s : List Char) : Step (Option Char) s :=
  match unicodeEscape? s with
  | none => none
  | some first =>
    if isHighHalf first.value then
      match unicodeEscape? first.rest with
      | some second =>
        if isLowHalf second.value then
          some ⟨some (Char.ofNat
              (0x10000 + (first.value - 0xD800) * 0x400 + (second.value - 0xDC00))),
            second.rest, Nat.lt_trans second.shorter first.shorter⟩
        else some ⟨none, first.rest, first.shorter⟩
      | none => some ⟨none, first.rest, first.shorter⟩
    else if isLowHalf first.value then some ⟨none, first.rest, first.shorter⟩
    else some ⟨some (Char.ofNat first.value), first.rest, first.shorter⟩

/-- The character of an escape by letter. -/
def letterEscape? (c : Char) : Option Char :=
  match c with
  | '"' => some '"'
  | '\\' => some '\\'
  | '/' => some '/'
  | 'b' => some '\x08'
  | 'f' => some '\x0c'
  | 'n' => some '\n'
  | 'r' => some '\r'
  | 't' => some '\t'
  | _ => none

/-- One character of a string, escaped or not. -/
def readChar (s : List Char) : Step (Option Char) s :=
  match s with
  | '\\' :: 'u' :: r => readUnicode ('\\' :: 'u' :: r)
  | '\\' :: c :: r =>
    (letterEscape? c).map fun d => ⟨some d, r, by simp only [List.length_cons]; omega⟩
  | s =>
    match first? s with
    | none => none
    | some c => if c.value.toNat < 32 || c.value == '\\' then none else some (c.map some)

/-- The characters up to the closing quote, which is consumed; `none` as a value if they denote no
text. -/
def readString (s : List Char) : Step (Option (List Char)) s :=
  match s with
  | [] => none
  | c :: r =>
    if c == '"' then some ⟨some [], r, Nat.lt_succ_self _⟩
    else
      match readChar (c :: r) with
      | none => none
      | some first =>
        match readString first.rest with
        | none => none
        | some others =>
          some ⟨first.value.bind fun d => others.value.map (d :: ·), others.rest,
            Nat.lt_trans others.shorter first.shorter⟩
termination_by s.length
decreasing_by exact first.shorter

/-! ## Numbers -/

/-- The digits at the front of `s`, at least one. -/
def readDigits (s : List Char) : Option (List Char × List Char) :=
  let digits := s.takeWhile Char.isDigit
  if digits.isEmpty then none else some (digits, s.dropWhile Char.isDigit)

/-- The fraction at the front of `s`, if there is one. -/
def readFraction : List Char → Option (List Char × List Char)
  | '.' :: r => readDigits r
  | s => some ([], s)

/-- The exponent at the front of `s`, if there is one. -/
def readExponent (s : List Char) : Option (Option Int × List Char) :=
  match s with
  | c :: r =>
    if c == 'e' || c == 'E' then do
      let (negative, r) := Number.dropSign r
      let (digits, rest) ← readDigits r
      let n := Int.ofNat (Nat.ofDigitChars 10 digits 0)
      some (some (if negative then -n else n), rest)
    else some (none, s)
  | [] => some (none, s)

/-- The number at the front of `s`. -/
def readNumber (s : List Char) : Step Json s := do
  let (negative, body) := match s with
    | '-' :: r => (true, r)
    | _ => (false, s)
  let (whole, rest) ← readDigits body
  if whole.head? = some '0' && 1 < whole.length then none
  else do
    let (fraction, rest) ← readFraction rest
    let (exponent, rest) ← readExponent rest
    if h : rest.length < s.length then some ⟨numberValue negative whole fraction exponent, rest, h⟩
    else none

/-! ## Containers -/

/-- Items with commas between them up to `close`, which is consumed; at least one. -/
def readList {α : Type} (close : Char) (item : (s : List Char) → Step α s) (s : List Char) :
    Step (List α) s :=
  match item s with
  | none => none
  | some first =>
    match next? first.rest with
    | none => none
    | some mark =>
      have bound : mark.rest.length < s.length := Nat.lt_trans mark.shorter first.shorter
      if mark.value == close then some ⟨[first.value], mark.rest, bound⟩
      else if mark.value == ',' then
        (readList close item mark.rest).map fun others =>
          ⟨first.value :: others.value, others.rest, Nat.lt_trans others.shorter bound⟩
      else none
termination_by s.length
decreasing_by exact bound

/-- The items of a container behind its opening bracket. -/
def readContainer {α : Type} (close : Char) (item : (s : List Char) → Step α s) (s : List Char) :
    Step (List α) s :=
  match next? s with
  | none => none
  | some mark =>
    if mark.value == close then some ⟨[], mark.rest, mark.shorter⟩ else readList close item s

/-- The text in quotes behind blanks; `none` as a value if it denotes no text. -/
def readKey (s : List Char) : Step (Option String) s :=
  match next? s with
  | none => none
  | some mark =>
    if mark.value == '"' then
      (readString mark.rest).map fun found =>
        (found.map (·.map String.ofList)).widen (Nat.le_of_lt mark.shorter)
    else none

/-- A key, a colon and a value. -/
def readEntry (value : (s : List Char) → Step Json s) (s : List Char) :
    Step (Option String × Json) s :=
  match readKey s with
  | none => none
  | some key =>
    match next? key.rest with
    | none => none
    | some mark =>
      if mark.value == ':' then
        (value mark.rest).map fun found =>
          ⟨(key.value, found.value), found.rest,
            Nat.lt_trans found.shorter (Nat.lt_trans mark.shorter key.shorter)⟩
      else none

/-- The object with these entries, if all of their keys denote texts. -/
def ofEntries (entries : List (Option String × Json)) : Json :=
  match entries.mapM fun (key?, value) => key?.map (·, value) with
  | some entries => .object entries
  | none => .unreadable

/-- The value without parts at the front of `s` that stands without quotes. -/
def readAtom (s : List Char) : Step Json s :=
  word "null" .null s <|> word "true" (.boolean true) s <|> word "false" (.boolean false) s <|>
    readNumber s

/-- The value at the front of `s`, behind blanks, in at most `levels - 1` containers. -/
def readValue (levels : Nat) (s : List Char) : Step Json s :=
  match levels with
  | 0 => none
  | levels + 1 =>
    match next? s with
    | none => none
    | some mark =>
      if mark.value == '"' then
        (readString mark.rest).map fun found =>
          (found.map fun text =>
            match text with
            | some chars => .text (String.ofList chars)
            | none => .unreadable).widen (Nat.le_of_lt mark.shorter)
      else if mark.value == '[' then
        (readContainer ']' (readValue levels) mark.rest).map fun found =>
          (found.map Json.array).widen (Nat.le_of_lt mark.shorter)
      else if mark.value == '\x7b' then
        (readContainer '\x7d' (readEntry (readValue levels)) mark.rest).map fun found =>
          (found.map ofEntries).widen (Nat.le_of_lt mark.shorter)
      else (readAtom (dropSpace s)).map (·.widen (dropSpace_length_le s))

/-- The value of a JSON text. -/
def read? (text : String) : Option Json :=
  let s := text.toList
  match readValue (s.length + 1) s with
  | none => none
  | some found => if (dropSpace found.rest).isEmpty then some found.value else none

end FilterQuery.Json
