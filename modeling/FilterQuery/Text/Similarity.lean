/-
# FilterQuery.Text.Similarity -- how much two texts are alike

The similarity of Jaro counts the characters that two texts have in common at
about the same place (*matches*) and how many of them come in another order; the
one of Winkler adds a bonus for a common beginning of at most four characters.
Both lie between 0 and 1.
-/

namespace FilterQuery.Text

/-- The candidates with the first unused `c` among them marked as used, if there is one at a place
from `first` on and before `stop`; `place` is the place of the first candidate. -/
def claim? (c : Char) (first stop : Nat) : (place : Nat) → List (Char × Bool) →
    Option (List (Char × Bool))
  | _, [] => none
  | place, (d, used) :: rest =>
    if stop ≤ place then none
    else if first ≤ place && c == d && !used then some ((d, true) :: rest)
    else (claim? c first stop (place + 1) rest).map ((d, used) :: ·)

/-- The characters of a text that find a partner among the candidates, and the candidates with the
partners marked; partners are at most `range` places apart. -/
def pairUp (range : Nat) : (place : Nat) → List Char → List (Char × Bool) →
    List Char × List (Char × Bool)
  | _, [], candidates => ([], candidates)
  | place, c :: s, candidates =>
    match claim? c (place - range) (place + range + 1) 0 candidates with
    | some marked =>
      let (matched, final) := pairUp range (place + 1) s marked
      (c :: matched, final)
    | none => pairUp range (place + 1) s candidates

/-- The matched characters of two texts, each in the order of its own text. -/
def matched (a b : List Char) : List Char × List Char :=
  let range := max a.length b.length / 2 - 1
  let (left, candidates) := pairUp range 0 a (b.map (·, false))
  (left, (candidates.filter (·.2)).map (·.1))

/-- The similarity of Jaro. -/
def jaro (a b : List Char) : Float :=
  if a.isEmpty && b.isEmpty then 1
  else
    let (left, right) := matched a b
    let matches' := left.length
    let transpositions := ((left.zip right).filter fun (c, d) => c != d).length / 2
    if matches' = 0 then 0
    else
      (Float.ofNat matches' / Float.ofNat a.length + Float.ofNat matches' / Float.ofNat b.length +
        Float.ofNat (matches' - transpositions) / Float.ofNat matches') / 3

/-- The length of the common beginning of two texts. -/
def commonStart : List Char → List Char → Nat
  | c :: a, d :: b => if c == d then commonStart a b + 1 else 0
  | _, _ => 0

/-- The similarity of Jaro and Winkler. -/
def jaroWinkler (a b : List Char) : Float :=
  let similarity := jaro a b
  if 0.7 < similarity then
    similarity + 0.1 * Float.ofNat (min 4 (commonStart a b)) * (1 - similarity)
  else similarity

end FilterQuery.Text
