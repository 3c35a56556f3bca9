/-
# FilterQuery.Expression.Grammar -- the texts that stand for filters

    disjunction  =  conjunction { ',' conjunction }
    conjunction  =  operand { ';' operand }
    operand      =  '(' disjunction ')'  |  selector operator argument
    selector     =  name { '.' name }
    argument     =  quoted value  |  bare value

Every phrase of the grammar is a relation between a whole text and what the text
stands for; nothing is left over, and blanks stand where `Padded` and
`ComparisonText` say.  The relations know nothing of positions, of what is tried
first, or of how far a reader looks ahead: an operator is the longest token that
its text begins with (`Longest`), and a bare value ends where its operand ends,
which is at a delimiter or at the end of the text.

`OperandText n` is an operand whose groups nest at most `n` deep, and
`Derives n` a filter made of such operands.  What a filter stands for is well
formed (`WellFormed`): each combination has at least two parts, and each field is
a selector; values are any texts at all.
-/
import FilterQuery.Expression.Printer
import FilterQuery.Expression.Selector

namespace FilterQuery.Expression

open FilterQuery.Text

/-! ## Comparisons -/

/-- Nothing but blanks. -/
def Blanks (s : List Char) : Prop :=
  ∀ c ∈ s, isBlank c = true

/-- Names with dots between them. -/
inductive SelectorText : List Char → Prop where
  | name {s : List Char} : isName s = true → SelectorText s
  | dotted {s t : List Char} : isName s = true → SelectorText t → SelectorText (s ++ '.' :: t)

/-- No token at the front of `token ++ rest` is longer than `token`. -/
def Longest (token rest : List Char) : Prop :=
  ∀ entry ∈ Comparator.spellings, entry.1.toList <+: token ++ rest →
    entry.1.toList.length ≤ token.length

/-- What stands between two quotes, and the value that it is: a backslash takes the character
behind it as it is, and the quote itself needs one. -/
inductive QuotedText (quote : Char) : List Char → List Char → Prop where
  | nil : QuotedText quote [] []
  | escaped {c : Char} {s value : List Char} :
      QuotedText quote s value → QuotedText quote ('\\' :: c :: s) (c :: value)
  | plain {c : Char} {s value : List Char} :
      c ≠ '\\' → c ≠ quote → QuotedText quote s value → QuotedText quote (c :: s) (c :: value)

/-- An argument and its value. -/
inductive ArgumentText : List Char → List Char → Prop where
  | quoted {quote : Char} {s value : List Char} :
      isQuote quote = true → QuotedText quote s value → ArgumentText (quote :: s ++ [quote]) value
  | bare {s : List Char} :
      (∀ c ∈ s, isReserved c = false) → trim s ≠ [] → ArgumentText s (trim s)

/-- A comparison. -/
inductive ComparisonText : List Char → Expression → Prop where
  | mk {field before after argument value : List Char} {token : String} {op : Comparator} :
      SelectorText field → Blanks before → (token, op) ∈ Comparator.spellings → Blanks after →
      ArgumentText argument value → Longest token.toList (after ++ argument) →
      ComparisonText (field ++ before ++ token.toList ++ after ++ argument)
        (.comparison (String.ofList field) op (String.ofList value))

/-! ## Runs and groups -/

/-- A phrase, with blanks around it. -/
inductive Padded (Phrase : List Char → Expression → Prop) : List Char → Expression → Prop where
  | mk {before s after : List Char} {e : Expression} :
      Blanks before → Phrase s e → Blanks after → Padded Phrase (before ++ s ++ after) e

/-- Phrases with `separator` between them, and what they stand for, in their order. -/
inductive SeparatedText (separator : Char) (Phrase : List Char → Expression → Prop) :
    List Char → List Expression → Prop where
  | one {s : List Char} {e : Expression} : Phrase s e → SeparatedText separator Phrase s [e]
  | more {s t : List Char} {e : Expression} {es : List Expression} :
      Phrase s e → SeparatedText separator Phrase t es →
      SeparatedText separator Phrase (s ++ separator :: t) (e :: es)

/-- A run of `kind`: one phrase stands for what it stands for by itself, two or more for one
combination of all of them. -/
inductive RunText (kind : Connective) (Phrase : List Char → Expression → Prop) :
    List Char → Expression → Prop where
  | single {s : List Char} {e : Expression} : Phrase s e → RunText kind Phrase s e
  | several {s : List Char} {es : List Expression} :
      SeparatedText kind.separator Phrase s es → 2 ≤ es.length →
      RunText kind Phrase s (.combination kind es)

/-- Conjunctions of operands with `,` between them. -/
def DisjunctionText (Operand : List Char → Expression → Prop) : List Char → Expression → Prop :=
  RunText .any (RunText .all Operand)

/-- A disjunction in parentheses, which stands for what the disjunction stands for. -/
inductive GroupText (Operand : List Char → Expression → Prop) : List Char → Expression → Prop where
  | mk {s : List Char} {e : Expression} :
      DisjunctionText Operand s e → GroupText Operand ('(' :: s ++ [')']) e

/-- A comparison, or a group if there may be one. -/
def OperandText : (levels : Nat) → List Char → Expression → Prop
  | 0 => Padded ComparisonText
  | levels + 1 => fun s e =>
    Padded ComparisonText s e ∨ Padded (GroupText (OperandText levels)) s e

/-- `s` is a filter that stands for `e`, with groups nested at most `limit` deep. -/
def Derives (limit : Nat) : List Char → Expression → Prop :=
  DisjunctionText (OperandText limit)

/-! ## Trees -/

/-- Combinations have at least two parts, and fields are selectors. -/
inductive WellFormed : Expression → Prop where
  | comparison {field : String} {op : Comparator} {value : String} :
      SelectorText field.toList → WellFormed (.comparison field op value)
  | combination {kind : Connective} {parts : List Expression} :
      2 ≤ parts.length → (∀ e ∈ parts, WellFormed e) → WellFormed (.combination kind parts)

end FilterQuery.Expression
