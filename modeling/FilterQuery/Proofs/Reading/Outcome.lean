/-
# FilterQuery.Proofs.Reading.Outcome -- reading steps without their bounds

A reading step carries the proof that it leaves less than it was given, which is
what makes the readers end and what stands in the way of rewriting with them.
`outcome` forgets that proof.  Each reader has one equation for its outcome
(`outcome_selector`, `outcome_readComparison`, `outcome_separated`,
`outcome_readRun`, `outcome_readOperand`, `parseChars_eq`), with all of its
faults, and everything about the readers is proved from these equations.
-/
import FilterQuery.Expression.Parser
import FilterQuery.Proofs.Steps

namespace FilterQuery.Expression

open FilterQuery.Text

/-- The value and what is left, without the proof that it is less. -/
def outcome {α : Type} {s : List Char} (step : Step α s) : Except Blame (α × List Char) :=
  step.map fun p => (p.value, p.rest)

@[simp] theorem outcome_error {α : Type} {s : List Char} (b : Blame) :
    outcome (.error b : Step α s) = .error b := rfl

@[simp] theorem outcome_ok {α : Type} {s : List Char} (p : Parsed α s) :
    outcome (.ok p : Step α s) = .ok (p.value, p.rest) := rfl

theorem outcome_shorter {α : Type} {s rest : List Char} {step : Step α s} {a : α}
    (h : outcome step = .ok (a, rest)) : rest.length < s.length := by
  cases step with
  | error blame => cases h
  | ok parsed =>
      cases h
      exact parsed.shorter

/-! ## The readers, as equations -/

theorem outcome_selector (s : List Char) :
    outcome (selector s) =
      if s.takeWhile Selector.isSelectorChar = [] then .error ⟨.missingSelector, s⟩
      else if Selector.isWellFormed (s.takeWhile Selector.isSelectorChar) then
        .ok (String.ofList (s.takeWhile Selector.isSelectorChar),
          s.dropWhile Selector.isSelectorChar)
      else .error ⟨.invalidSelector (String.ofList (s.takeWhile Selector.isSelectorChar)), s⟩ := by
  unfold selector
  simp only
  split
  · rfl
  · split <;> rfl

theorem outcome_readComparison (s : List Char) :
    outcome (readComparison s) = (do
      let (field, afterField) ← outcome (selector s)
      let (op, afterOperator) ← operator field (dropBlank afterField)
      let (value, rest) ← readArgument field (dropBlank afterOperator)
      return (.comparison field op (String.ofList value), rest)) := by
  unfold readComparison
  cases selector s with
  | error b => rfl
  | ok field =>
      simp only [outcome_ok, bind, Except.bind]
      split
      · rename_i h
        rw [h]
        rfl
      · rename_i op afterOperator h
        simp only [h]
        split
        · rename_i h'
          rw [h']
          rfl
        · rename_i value rest h'
          simp only [outcome_ok, h']
          rfl

theorem outcome_separated {α : Type} (separator : Char) (item : (s : List Char) → Step α s)
    (s : List Char) :
    outcome (separated separator item s) = (do
      let (first, rest) ← outcome (item s)
      match dropBlank rest with
      | [] => return ([first], [])
      | c :: rest =>
        if c == separator then do
          let (others, rest) ← outcome (separated separator item rest)
          return (first :: others, rest)
        else return ([first], c :: rest)) := by
  rw [separated]
  cases item s with
  | error b => rfl
  | ok first =>
      simp only [outcome_ok, bind, Except.bind]
      split
      · rename_i h
        rw [h]
        rfl
      · rename_i c rest h
        simp only [h]
        split
        · cases separated separator item rest <;> rfl
        · rfl

theorem outcome_readRun (kind : Connective) (item : (s : List Char) → Step Expression s)
    (s : List Char) :
    outcome (readRun kind item s) = (do
      let (es, rest) ← outcome (separated kind.separator item s)
      return (joined kind es, rest)) := by
  unfold readRun
  cases separated kind.separator item s <;> rfl

theorem outcome_readOperand (limit levels : Nat) (s : List Char) :
    outcome (readOperand limit levels s) =
      match dropBlank s with
      | [] => .error ⟨.missingOperand, []⟩
      | c :: r =>
        if c == '(' then
          match levels with
          | 0 => .error ⟨.tooDeep limit, c :: r⟩
          | levels + 1 => do
            let (e, rest) ← outcome (readDisjunction (readOperand limit levels) r)
            match rest with
            | [] => .error ⟨.unclosedGroup, c :: r⟩
            | d :: rest => if d == ')' then return (e, rest) else .error ⟨.unclosedGroup, c :: r⟩
        else if c == ';' || c == ',' then .error ⟨.danglingSeparator c, c :: r⟩
        else if c == ')' then .error ⟨.closedTooEarly, c :: r⟩
        else outcome (readComparison (c :: r)) := by
  rw [readOperand]
  split
  · rename_i h
    simp only [h]
    rfl
  · rename_i c r h
    simp only [h]
    split
    · cases levels with
      | zero => rfl
      | succ levels =>
          simp only [bind, Except.bind]
          cases readDisjunction (readOperand limit levels) r with
          | error b => rfl
          | ok inner =>
              simp only [outcome_ok]
              split
              · rename_i h'
                rw [h']
                rfl
              · rename_i d rest h'
                simp only [h']
                split <;> rfl
    · split
      · rfl
      · split
        · rfl
        · cases readComparison (c :: r) <;> rfl

theorem parseChars_eq (limit : Nat) (s : List Char) :
    parseChars limit s =
      if dropBlank s = [] then .error ⟨.emptyText, s⟩
      else (do
        let (e, rest) ← outcome (readDisjunction (readOperand limit limit) (dropBlank s))
        match rest with
        | [] => return e
        | c :: rest =>
          if c == ')' then throw ⟨.unopenedGroup, c :: rest⟩
          else throw ⟨.unexpected c, c :: rest⟩) := by
  unfold parseChars
  split
  · rename_i h
    simp [h]
  · rename_i h
    rw [if_neg h]
    cases readDisjunction (readOperand limit limit) (dropBlank s) with
    | error b => rfl
    | ok found =>
        obtain ⟨value, rest, shorter⟩ := found
        cases rest <;> rfl

end FilterQuery.Expression
