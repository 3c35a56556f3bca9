/-
# FilterQuery.Proofs.Reading.Limits -- what a higher limit of groups changes

Two readers with different limits take the same steps until one of them comes to a group that it
may not open.  That is the one with the lower limit, and it fails there, so its result is the
same as the other's or the refusal of that group (`Raised`).  Each reader hands this on from the
readers that it is made of: a step behind another (`Raised.bind`), a run of items
(`raised_separated`), and a level of groups from the level below (`raised_readOperand`).
-/
import FilterQuery.Expression.Reading
import FilterQuery.Proofs.Reading.Blame

namespace FilterQuery.Expression

open FilterQuery.Text

/-! ## Two outcomes -/

/-- The outcome of a reader, and that of one with a higher limit. -/
inductive Raised {α : Type} (limit : Nat) : Except Blame α → Except Blame α → Prop where
  | same (result : Except Blame α) : Raised limit result result
  | refused (rest : List Char) (other : Except Blame α) :
      Raised limit (.error ⟨.tooDeep limit, '(' :: rest⟩) other

section Raised

variable {α β : Type} {limit : Nat}

theorem Raised.bind {result other : Except Blame α} (h : Raised limit result other)
    {next next' : α → Except Blame β}
    (step : ∀ a, result = .ok a → Raised limit (next a) (next' a)) :
    Raised limit (result >>= next) (other >>= next') := by
  cases h with
  | refused rest other => exact .refused rest _
  | same result =>
      cases result with
      | error blame => exact .same _
      | ok a => exact step a rfl

end Raised

/-! ## Runs -/

section Run

variable {limit : Nat} {item item' : (s : List Char) → Step Expression s}

theorem raised_separated (each : ∀ s, Raised limit (outcome (item s)) (outcome (item' s)))
    (separator : Char) (s : List Char) :
    Raised limit (outcome (separated separator item s))
      (outcome (separated separator item' s)) := by
  induction size : s.length using Nat.strong_induction_on generalizing s with
  | _ n ih =>
    rw [outcome_separated, outcome_separated]
    apply (each s).bind
    rintro ⟨first, left⟩ readFirst
    simp only
    split
    · exact .same _
    · rename_i c rest next
      split
      · have bound : rest.length < n := by
          have := outcome_shorter readFirst
          have := dropBlank_length_le left
          rw [next, List.length_cons] at this
          omega
        apply (ih rest.length bound rest rfl).bind
        intro others _
        exact .same _
      · exact .same _

theorem raised_readRun (each : ∀ s, Raised limit (outcome (item s)) (outcome (item' s)))
    (kind : Connective) (s : List Char) :
    Raised limit (outcome (readRun kind item s)) (outcome (readRun kind item' s)) := by
  rw [outcome_readRun, outcome_readRun]
  apply (raised_separated each kind.separator s).bind
  intro run _
  exact .same _

theorem raised_readDisjunction (each : ∀ s, Raised limit (outcome (item s)) (outcome (item' s)))
    (s : List Char) :
    Raised limit (outcome (readDisjunction item s)) (outcome (readDisjunction item' s)) :=
  raised_readRun (raised_readRun each .all) .any s

end Run

/-! ## Groups -/

section Groups

variable {limit limit' levels levels' : Nat} {s : List Char}

/-- The limits matter to groups only. -/
theorem raised_readOperand_of_group
    (group : ∀ rest, dropBlank s = '(' :: rest → Raised limit (outcome (readOperand limit levels s))
      (outcome (readOperand limit' levels' s))) :
    Raised limit (outcome (readOperand limit levels s))
      (outcome (readOperand limit' levels' s)) := by
  cases front : dropBlank s with
  | nil =>
      rw [outcome_readOperand, outcome_readOperand, front]
      exact .same _
  | cons c rest =>
      by_cases isOpen : c = '('
      · rw [isOpen] at front
        exact group rest front
      · have other : (c == '(') = false := by simpa using isOpen
        rw [outcome_readOperand, outcome_readOperand, front]
        simp only [other]
        exact .same _

/-- The levels count down together, and the lower ones are used up first. -/
theorem raised_readOperand (limit limit' : Nat) (fewer : levels ≤ levels') (s : List Char) :
    Raised limit (outcome (readOperand limit levels s))
      (outcome (readOperand limit' levels' s)) := by
  induction levels generalizing levels' s with
  | zero =>
      apply raised_readOperand_of_group
      intro rest front
      rw [outcome_readOperand, front]
      exact .refused rest _
  | succ levels ih =>
      obtain ⟨levels', rfl⟩ : ∃ lower, levels' = lower + 1 :=
        Nat.exists_eq_add_of_le' (le_trans (Nat.le_add_left 1 levels) fewer)
      have below := raised_readDisjunction fun s => ih (Nat.le_of_succ_le_succ fewer) s
      apply raised_readOperand_of_group
      intro rest front
      rw [outcome_readOperand, outcome_readOperand, front]
      apply (below rest).bind
      intro inner _
      exact .same _

end Groups

/-! ## Whole texts -/

theorem raised_parseChars {limit limit' : Nat} (lower : limit ≤ limit') (s : List Char) :
    Raised limit (parseChars limit s) (parseChars limit' s) := by
  rw [parseChars_eq, parseChars_eq]
  split
  · exact .same _
  · have operands := raised_readOperand limit limit' lower
    apply (raised_readDisjunction operands (dropBlank s)).bind
    intro found _
    exact .same _

theorem isTooDeep_of_parseChars {limit : Nat} {text : String} {rest : List Char}
    (failed : parseChars limit text.toList = .error ⟨.tooDeep limit, '(' :: rest⟩) :
    ∃ fault, parse limit text = .error fault ∧ IsTooDeep limit text fault := by
  obtain ⟨-, front, split, -⟩ := parseChars_blames failed
  refine ⟨_, parse_eq_error_iff.mpr ⟨_, failed, rfl⟩, ?_, rfl, rfl⟩
  refine ⟨String.ofList front, String.ofList rest, ?_, ?_⟩
  · rw [← String.toList_inj, split]
    simp
  · rw [split, byteLength_append, Nat.add_sub_cancel, utf8ByteSize_ofList]

/-- Under a higher limit a text is read as before, but for texts with a group that was too deep. -/
theorem parse_onlyTooDeep {limit higher : Nat} (raised : limit ≤ higher) (text : String) :
    OnlyTooDeep limit higher text := by
  have same_or_deep : parse limit text = parse higher text ∨
      ∃ fault, parse limit text = .error fault ∧ IsTooDeep limit text fault := by
    have outcomes := raised_parseChars raised text.toList
    generalize low : parseChars limit text.toList = result at outcomes
    generalize high : parseChars higher text.toList = other at outcomes
    cases outcomes with
    | same result =>
        left
        rw [parse, parse, low, high]
    | refused rest other =>
        right
        exact isTooDeep_of_parseChars low
  refine ⟨same_or_deep, ?_, ?_⟩
  · intro e read
    rcases same_or_deep with same | ⟨fault, failed, -⟩
    · rw [← same, read]
    · rw [read] at failed
      cases failed
  · intro e fault read failed
    rcases same_or_deep with same | ⟨fault', failed', deep⟩
    · rw [← same, failed] at read
      cases read
    · rw [failed] at failed'
      cases failed'
      exact deep

/-- A group in a group, behind a letter of two bytes, is read under a limit of two and too deep for
a limit of one. -/
theorem parse_onlyTooDeep_two_groups :
    (∃ e, parse 2 "a=='é';(b==1;(c==2))" = .ok e) ∧
    parse 1 "a=='é';(b==1;(c==2))" = .error ⟨14, .tooDeep 1⟩ ∧
    IsTooDeep 1 "a=='é';(b==1;(c==2))" ⟨14, .tooDeep 1⟩ := by
  have read : parse 2 "a=='é';(b==1;(c==2))" = .ok (.combination .all
      [.comparison "a" .equal "é", .combination .all
        [.comparison "b" .equal "1", .comparison "c" .equal "2"]]) := by
    decide +kernel
  have failed : parse 1 "a=='é';(b==1;(c==2))" = .error ⟨14, .tooDeep 1⟩ := by decide +kernel
  exact ⟨⟨_, read⟩, failed, (parse_onlyTooDeep (Nat.le_succ 1) _).refused _ _ read failed⟩

end FilterQuery.Expression
