/-
# FilterQuery.Value.Wildcard -- values that stand for many texts

In a filter one chosen character, the marker, stands for any characters; in a
pattern it is always `*`.  `normalize` goes from the one to the other: markers
become `*`, and the three characters that a pattern gives a meaning to get a
backslash in front of them where they are meant as they stand.

What either stands for is a relation of its own, which knows nothing of the other:
`StandsFor` for values of filters, and `Matches` for patterns, which the index reads.
-/

namespace FilterQuery.Wildcard

/-- A character that means more than itself in a pattern. -/
def isSpecial (c : Char) : Bool :=
  c == '*' || c == '?' || c == '\\'

/-- The pattern of a value in which `marker` stands for any characters. -/
def normalize (marker : Char) : List Char → List Char
  | [] => []
  | c :: r =>
    if c == marker then '*' :: normalize marker r
    else if isSpecial c then '\\' :: c :: normalize marker r
    else c :: normalize marker r

/-! ## Languages -/

/-- A value stands for a text: each marker for any characters, every other character for itself. -/
inductive StandsFor (marker : Char) : (value text : List Char) → Prop
  | nil : StandsFor marker [] []
  | any {value rest : List Char} (skipped : List Char) :
      StandsFor marker value rest → StandsFor marker (marker :: value) (skipped ++ rest)
  | itself {value rest : List Char} {c : Char} : c ≠ marker →
      StandsFor marker value rest → StandsFor marker (c :: value) (c :: rest)

/-- A pattern matches a text: `*` any characters, `?` any one character, a character behind a
backslash itself, and so does every other character. -/
inductive Matches : (pattern text : List Char) → Prop
  | nil : Matches [] []
  | any {pattern rest : List Char} (skipped : List Char) :
      Matches pattern rest → Matches ('*' :: pattern) (skipped ++ rest)
  | one {pattern rest : List Char} (c : Char) :
      Matches pattern rest → Matches ('?' :: pattern) (c :: rest)
  | escaped {pattern rest : List Char} (c : Char) :
      Matches pattern rest → Matches ('\\' :: c :: pattern) (c :: rest)
  | itself {pattern rest : List Char} {c : Char} : isSpecial c = false →
      Matches pattern rest → Matches (c :: pattern) (c :: rest)

/-- A pattern ends in a backslash that has no character to stand in front of. -/
def dangles : List Char → Bool
  | [] => false
  | ['\\'] => true
  | '\\' :: _ :: pattern => dangles pattern
  | _ :: pattern => dangles pattern

end FilterQuery.Wildcard
