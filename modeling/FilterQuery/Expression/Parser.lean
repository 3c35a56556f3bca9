/-
# FilterQuery.Expression.Parser -- reading a filter text

    disjunction  =  conjunction { ',' conjunction }
    conjunction  =  operand { ';' operand }
    operand      =  '(' disjunction ')'  |  selector operator argument
    argument     =  quoted value  |  bare value

Blanks may stand between tokens.  A run of one element is that element; a run
of more is one combination, and a group is never merged into the run around it.
Groups nest at most as deep as the limit says.

A step of the parser takes the characters that are left and gives a value with
the characters that are then left, which are fewer (`Parsed.shorter`); the runs
end because of that, and the groups because their levels are counted down.  A
step that fails blames the place where a certain rest of the text begins
(`Blame`), and `parse` turns that rest into a byte offset.
-/
import FilterQuery.Expression.Malformed
import FilterQuery.Expression.Printer
import FilterQuery.Expression.Selector
import FilterQuery.Text.Blank
import FilterQuery.Text.Parsed

namespace FilterQuery.Expression

open FilterQuery.Text

/-- A fault, blamed on the place where `rest` begins. -/
structure Blame where
  cause : SyntaxCause
  rest : List Char

/-- The outcome of reading an `α` from the front of `s`. -/
abbrev Step (α : Type) (s : List Char) :=
  Except Blame (Parsed α s)

/-! ## Comparisons -/

/-- The run of selector characters at the front of `s`, if it is a selector. -/
def selector (s : List Char) : Step String s :=
  let run := s.takeWhile Selector.isSelectorChar
  if h : run = [] then .error ⟨.missingSelector, s⟩
  else if Selector.isWellFormed run then
    .ok ⟨String.ofList run, s.dropWhile Selector.isSelectorChar, by
      have length := congrArg List.length
        (List.takeWhile_append_dropWhile (p := Selector.isSelectorChar) (l := s))
      have positive : 0 < (s.takeWhile Selector.isSelectorChar).length := List.length_pos_iff.mpr h
      rw [List.length_append] at length
      omega⟩
  else .error ⟨.invalidSelector (String.ofList run), s⟩

/-- The letters between two equals signs at the front of `s`. -/
def customOperator? : List Char → Option (List Char)
  | '=' :: r =>
    let name := r.takeWhile Char.isAlpha
    match r.dropWhile Char.isAlpha with
    | '=' :: _ => if name.isEmpty then none else some name
    | _ => none
  | _ => none

/-- The operator at the front of `s` and what follows it. -/
def operator (field : String) (s : List Char) : Except Blame (Comparator × List Char) :=
  match Comparator.lex? s with
  | some found => .ok found
  | none =>
    match customOperator? s with
    | some name => .error ⟨.unknownOperator (String.ofList name), s⟩
    | none => .error ⟨.missingOperator field, s⟩

/-- The value up to the closing `quote`, and what follows that.  A backslash takes the character
behind it as it is. -/
def quoted? (quote : Char) : List Char → Option (List Char × List Char)
  | [] => none
  | '\\' :: c :: r => (quoted? quote r).map fun (value, rest) => (c :: value, rest)
  | c :: r =>
    if c == '\\' then none
    else if c == quote then some ([], r)
    else (quoted? quote r).map fun (value, rest) => (c :: value, rest)

/-- The bare value at the front of `s`: everything before the next delimiter, trimmed. -/
def bare (field : String) (s : List Char) : Except Blame (List Char × List Char) :=
  let rest := s.dropWhile (!isReserved ·)
  let value := trim (s.takeWhile (!isReserved ·))
  if rest.head?.any isQuote then .error ⟨.quoteInsideValue, rest⟩
  else if value.isEmpty then .error ⟨.missingValue field, s⟩
  else .ok (value, rest)

/-- The argument at the front of `s`: quoted if it begins with a quote, else bare. -/
def readArgument (field : String) : List Char → Except Blame (List Char × List Char)
  | [] => bare field []
  | c :: r =>
    if isQuote c then
      match quoted? c r with
      | some found => .ok found
      | none => .error ⟨.unterminatedQuote, c :: r⟩
    else bare field (c :: r)

/-! ### What is left is never more -/

theorem lex?_length {s r : List Char} {op : Comparator} (h : Comparator.lex? s = some (op, r)) :
    r.length < s.length := by
  obtain ⟨⟨token, op'⟩, member, found⟩ := List.exists_of_findSome?_eq_some h
  obtain ⟨left, isLeft, pair⟩ := Option.map_eq_some_iff.mp found
  obtain ⟨rfl, rfl⟩ := Prod.mk.inj pair
  have split : s = token.toList ++ left := after?_eq_some_iff.mp isLeft
  have nonempty : ∀ entry ∈ Comparator.spellings, 0 < entry.1.toList.length := by decide
  have := nonempty _ member
  simp only [split, List.length_append]
  simp only at this
  omega

theorem quoted?_length {quote : Char} {s value r : List Char}
    (h : quoted? quote s = some (value, r)) : r.length ≤ s.length := by
  fun_induction quoted? quote s generalizing value with
  | case1 => simp at h
  | case2 c t ih =>
    obtain ⟨⟨v, left⟩, found, pair⟩ := Option.map_eq_some_iff.mp h
    obtain ⟨rfl, rfl⟩ := Prod.mk.inj pair
    have := ih found
    simp only [List.length_cons]
    omega
  | case3 => simp at h
  | case4 c t _ _ _ =>
    obtain ⟨rfl, rfl⟩ := Prod.mk.inj (Option.some.inj h)
    simp
  | case5 c t _ _ _ ih =>
    obtain ⟨⟨v, left⟩, found, pair⟩ := Option.map_eq_some_iff.mp h
    obtain ⟨rfl, rfl⟩ := Prod.mk.inj pair
    have := ih found
    simp only [List.length_cons]
    omega

theorem bare_length {field : String} {s value r : List Char}
    (h : bare field s = .ok (value, r)) : r.length ≤ s.length := by
  unfold bare at h
  simp only at h
  split at h
  · cases h
  · split at h
    · cases h
    · cases h
      exact (List.dropWhile_suffix _).length_le

theorem readArgument_length {field : String} {s value r : List Char}
    (h : readArgument field s = .ok (value, r)) : r.length ≤ s.length := by
  unfold readArgument at h
  split at h
  · exact bare_length h
  · next c t =>
    split at h
    · split at h
      · next found same =>
        cases h
        have := quoted?_length same
        simp only [List.length_cons]
        omega
      · cases h
    · exact bare_length h

/-- The comparison at the front of `s`. -/
def readComparison (s : List Char) : Step Expression s :=
  match selector s with
  | .error blame => .error blame
  | .ok field =>
    match h : operator field.value (dropBlank field.rest) with
    | .error blame => .error blame
    | .ok (op, afterOperator) =>
      match h' : readArgument field.value (dropBlank afterOperator) with
      | .error blame => .error blame
      | .ok (value, rest) =>
        .ok ⟨.comparison field.value op (String.ofList value), rest, by
          have first := field.shorter
          have second := dropBlank_length_le field.rest
          have third : afterOperator.length < (dropBlank field.rest).length := by
            unfold operator at h
            split at h
            · next found same =>
              cases h
              exact lex?_length same
            · split at h <;> cases h
          have fourth := dropBlank_length_le afterOperator
          have fifth := readArgument_length h'
          omega⟩

/-! ## Runs and groups -/

/-- One or more items with `separator` between them; the blanks behind the run are dropped. -/
def separated {α : Type} (separator : Char) (item : (s : List Char) → Step α s) (s : List Char) :
    Step (List α) s :=
  match item s with
  | .error blame => .error blame
  | .ok first =>
    match h : dropBlank first.rest with
    | [] => .ok ⟨[first.value], [], Nat.lt_of_le_of_lt (Nat.zero_le _) first.shorter⟩
    | c :: rest =>
      have bound : rest.length + 1 < s.length := by
        have := dropBlank_length_le first.rest
        have := first.shorter
        simp only [h, List.length_cons] at *
        omega
      if c == separator then
        match separated separator item rest with
        | .error blame => .error blame
        | .ok others => .ok ⟨first.value :: others.value, others.rest, by
            have := others.shorter
            omega⟩
      else .ok ⟨[first.value], c :: rest, bound⟩
termination_by s.length

/-- A run as an expression: one element stands for itself. -/
def joined (kind : Connective) : List Expression → Expression
  | [e] => e
  | es => .combination kind es

/-- A run of `kind`, read as one expression. -/
def readRun (kind : Connective) (item : (s : List Char) → Step Expression s) (s : List Char) :
    Step Expression s :=
  match separated kind.separator item s with
  | .error blame => .error blame
  | .ok run => .ok ⟨joined kind run.value, run.rest, run.shorter⟩

/-- A disjunction of conjunctions of operands. -/
def readDisjunction (operand : (s : List Char) → Step Expression s) (s : List Char) :
    Step Expression s :=
  readRun .any (readRun .all operand) s

/-- A comparison or a group; `levels` is how many groups may still be opened. -/
def readOperand (limit : Nat) (levels : Nat) (s : List Char) : Step Expression s :=
  match h : dropBlank s with
  | [] => .error ⟨.missingOperand, []⟩
  | c :: r =>
    have bound : r.length < s.length := by
      have := dropBlank_length_le s
      simp only [h, List.length_cons] at this
      omega
    if c == '(' then
      match levels with
      | 0 => .error ⟨.tooDeep limit, c :: r⟩
      | levels + 1 =>
        match readDisjunction (readOperand limit levels) r with
        | .error blame => .error blame
        | .ok inner =>
          match h' : inner.rest with
          | [] => .error ⟨.unclosedGroup, c :: r⟩
          | d :: rest =>
            if d == ')' then
              .ok ⟨inner.value, rest, by
                have := inner.shorter
                simp only [h', List.length_cons] at this
                omega⟩
            else .error ⟨.unclosedGroup, c :: r⟩
    else if c == ';' || c == ',' then .error ⟨.danglingSeparator c, c :: r⟩
    else if c == ')' then .error ⟨.closedTooEarly, c :: r⟩
    else
      match readComparison (c :: r) with
      | .error blame => .error blame
      | .ok found => .ok ⟨found.value, found.rest, by
          have := found.shorter
          simp only [List.length_cons] at this
          omega⟩

/-! ## Whole texts -/

/-- Reads all of `s`, with groups nested at most `limit` deep. -/
def parseChars (limit : Nat) (s : List Char) : Except Blame Expression :=
  match dropBlank s with
  | [] => .error ⟨.emptyText, s⟩
  | start =>
    match readDisjunction (readOperand limit limit) start with
    | .error blame => .error blame
    | .ok found =>
      match found.rest with
      | [] => .ok found.value
      | c :: rest =>
        if c == ')' then .error ⟨.unopenedGroup, c :: rest⟩
        else .error ⟨.unexpected c, c :: rest⟩

/-- Reads a filter text, with groups nested at most `limit` deep. -/
def parse (limit : Nat) (text : String) : Except Malformed Expression :=
  match parseChars limit text.toList with
  | .ok e => .ok e
  | .error blame => .error ⟨byteLength text.toList - byteLength blame.rest, blame.cause⟩

end FilterQuery.Expression
