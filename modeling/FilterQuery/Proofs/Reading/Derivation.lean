/-
# FilterQuery.Proofs.Reading.Derivation -- the parser and the grammar

The operands of each level have a reader (`readOperand_reads`): a group of a level
is a disjunction of operands of the level below, so this goes level by level, from
comparisons alone to the groups that the settings allow.

A text is read as an expression exactly when the grammar derives it
(`parseChars_eq_ok_iff`), and since a reader gives one answer, the grammar gives a
text at most one meaning (`Derives.unique`).
-/
import FilterQuery.Proofs.Reading.Runs
import FilterQuery.Settings

namespace FilterQuery.Expression

open FilterQuery.Text

/-! ## Operands -/

theorem comparisonText_starts {s : List Char} {e : Expression} (h : ComparisonText s e) :
    ∃ c r, s = c :: r ∧ Selector.isSelectorChar c = true := by
  cases h with
  | mk isSelector =>
      obtain ⟨c, r, rfl, first⟩ := selectorText_starts isSelector
      exact ⟨c, _, rfl, first⟩

theorem Padded.pads {Phrase : List Char → Expression → Prop} {before s after : List Char}
    {e : Expression} (blankBefore : Blanks before) (h : Padded Phrase s e)
    (blankAfter : Blanks after) : Padded Phrase (before ++ s ++ after) e := by
  cases h with
  | @mk before' s after' _ blankBefore' phrase blankAfter' =>
      have : before ++ (before' ++ s ++ after') ++ after =
          before ++ before' ++ s ++ (after' ++ after) := by
        simp
      rw [this]
      exact .mk (blanks_append.mpr ⟨blankBefore, blankBefore'⟩) phrase
        (blanks_append.mpr ⟨blankAfter', blankAfter⟩)

theorem operandText_of_comparison {s : List Char} {e : Expression} (levels : Nat)
    (h : Padded ComparisonText s e) : OperandText levels s e := by
  cases levels with
  | zero => exact h
  | succ levels => exact .inl h

/-- The delimiters that may stand behind a disjunction. -/
def endsDisjunction (c : Char) : Bool :=
  (isDelimiter c && c != Connective.all.separator) && c != Connective.any.separator

section Disjunction

variable {item : (s : List Char) → Step Expression s} {Phrase : List Char → Expression → Prop}

theorem Reads.conjunction (reads : Reads isDelimiter item Phrase) :
    Reads (fun c => isDelimiter c && c != Connective.all.separator) (readRun .all item)
      (RunText .all Phrase) :=
  reads.run (fun _ h => h) rfl

theorem Reads.disjunction (reads : Reads isDelimiter item Phrase) :
    Reads endsDisjunction (readDisjunction item) (DisjunctionText Phrase) := by
  refine reads.conjunction.run ?_ rfl
  intro c h
  simp only [Bool.and_eq_true] at h
  exact h.1

theorem readDisjunction_append (reads : Reads isDelimiter item Phrase) {text rest : List Char}
    {e : Expression} (h : DisjunctionText Phrase text e) (stops : StopsAt endsDisjunction rest) :
    outcome (readDisjunction item (text ++ rest)) = .ok (e, rest) :=
  readRun_append reads.conjunction rfl h stops

end Disjunction

theorem readOperand_dropBlank (limit levels : Nat) (s : List Char) :
    outcome (readOperand limit levels (dropBlank s)) = outcome (readOperand limit levels s) := by
  rw [outcome_readOperand, outcome_readOperand, dropBlank_dropBlank]

theorem readOperand_of_comparison {limit levels : Nat} {s : List Char} {c : Char} {r : List Char}
    (front : dropBlank s = c :: r) (notDelimiter : isDelimiter c = false) :
    outcome (readOperand limit levels s) = outcome (readComparison (c :: r)) := by
  simp only [isDelimiter, Bool.or_eq_false_iff] at notDelimiter
  obtain ⟨⟨⟨notOpen, notClose⟩, notAnd⟩, notOr⟩ := notDelimiter
  rw [outcome_readOperand, front]
  simp [notOpen, notClose, notAnd, notOr]

theorem readOperand_append_comparison (limit levels : Nat) {phrase rest : List Char}
    {e : Expression} (h : Padded ComparisonText phrase e) (stops : StopsAt isDelimiter rest) :
    ∃ left, outcome (readOperand limit levels (phrase ++ rest)) = .ok (e, left) ∧
      dropBlank left = rest := by
  cases h with
  | @mk before s after _ blankBefore comparison blankAfter =>
      obtain ⟨c, r, rfl, first⟩ := comparisonText_starts comparison
      have front : dropBlank (before ++ (c :: r) ++ after ++ rest) = c :: r ++ (after ++ rest) := by
        simp only [List.append_assoc]
        rw [dropBlank_blanks_append blankBefore]
        exact dropBlank_cons_of_not_blank (not_isBlank_of_isSelectorChar first)
      rw [readOperand_of_comparison front (not_isDelimiter_of_isSelectorChar first)]
      exact readComparison_append comparison blankAfter stops

theorem readOperand_append_group {limit levels : Nat}
    (reads : Reads isDelimiter (readOperand limit levels) (OperandText levels))
    {phrase rest : List Char} {e : Expression}
    (h : Padded (GroupText (OperandText levels)) phrase e) (stops : StopsAt isDelimiter rest) :
    ∃ left, outcome (readOperand limit (levels + 1) (phrase ++ rest)) = .ok (e, left) ∧
      dropBlank left = rest := by
  cases h with
  | @mk before s after _ blankBefore group blankAfter =>
      cases group with
      | @mk inside _ isDisjunction =>
          have front : dropBlank (before ++ ('(' :: inside ++ [')']) ++ after ++ rest) =
              '(' :: (inside ++ ')' :: (after ++ rest)) := by
            simp only [List.append_assoc, List.cons_append, List.nil_append]
            rw [dropBlank_blanks_append blankBefore]
            exact dropBlank_cons_of_not_blank (by decide)
          have closes : StopsAt endsDisjunction (')' :: (after ++ rest)) := by
            rw [stopsAt_cons]
            decide
          have inner := readDisjunction_append reads isDisjunction closes
          refine ⟨after ++ rest, ?_, ?_⟩
          · rw [outcome_readOperand, front]
            simp only [beq_self_eq_true, if_true, inner, bind, Except.bind]
            rfl
          · rw [dropBlank_blanks_append blankAfter, dropBlank_of_delimiter stops]

theorem readOperand_sound {limit levels : Nat} {s rest : List Char} {e : Expression}
    (below : ∀ {lower}, levels = lower + 1 →
      Reads isDelimiter (readOperand limit lower) (OperandText lower))
    (h : outcome (readOperand limit levels s) = .ok (e, rest)) :
    ∃ phrase, s = phrase ++ rest ∧ OperandText levels phrase e := by
  obtain ⟨before, blank, split⟩ := exists_blanks_append_dropBlank s
  rw [outcome_readOperand] at h
  split at h
  · cases h
  · rename_i c r front
    rw [front] at split
    split at h
    · rename_i isOpen
      obtain rfl : c = '(' := by simpa using isOpen
      cases levels with
      | zero => cases h
      | succ levels =>
          obtain ⟨⟨inner, left⟩, readInner, h⟩ := bind_eq_ok_iff.mp h
          simp only at h
          split at h
          · cases h
          · rename_i d behind
            split at h
            · rename_i isClose
              obtain rfl : d = ')' := by simpa using isClose
              obtain ⟨rfl, rfl⟩ := Prod.mk.inj (Except.ok.inj h)
              obtain ⟨inside, rfl, isDisjunction⟩ := (below rfl).disjunction.sound readInner
              refine ⟨before ++ ('(' :: inside ++ [')']) ++ [], by simp [split], .inr ?_⟩
              exact .mk blank (.mk isDisjunction) blanks_nil
            · cases h
    · split at h
      · cases h
      · split at h
        · cases h
        · obtain ⟨phrase, same, comparison⟩ := readComparison_sound h
          refine ⟨before ++ phrase ++ [], by simp [split, same], ?_⟩
          exact operandText_of_comparison levels (.mk blank comparison blanks_nil)

/-- The reader of a level reads the operands of that level. -/
theorem readOperand_reads (limit levels : Nat) :
    Reads isDelimiter (readOperand limit levels) (OperandText levels) := by
  induction levels with
  | zero =>
      refine ⟨readOperand_dropBlank limit 0, Padded.pads, ?_, ?_⟩
      · exact readOperand_sound fun impossible => by cases impossible
      · exact readOperand_append_comparison limit 0
  | succ levels ih =>
      refine ⟨readOperand_dropBlank limit (levels + 1), ?_, ?_, ?_⟩
      · rintro before s after e blankBefore (comparison | group) blankAfter
        · exact .inl (comparison.pads blankBefore blankAfter)
        · exact .inr (group.pads blankBefore blankAfter)
      · exact readOperand_sound fun same => by
          cases same
          exact ih
      · rintro phrase rest e (comparison | group) stops
        · exact readOperand_append_comparison limit (levels + 1) comparison stops
        · exact readOperand_append_group ih group stops

/-! ## Whole texts -/

theorem readDisjunction_nil (limit levels : Nat) :
    outcome (readDisjunction (readOperand limit levels) []) = .error ⟨.missingOperand, []⟩ := by
  rw [readDisjunction, outcome_readRun, outcome_separated, outcome_readRun, outcome_separated,
    outcome_readOperand]
  rfl

/-- All of a text is read as `e` exactly when the grammar derives `e` from it. -/
theorem parseChars_eq_ok_iff {limit : Nat} {s : List Char} {e : Expression} :
    parseChars limit s = .ok e ↔ Derives limit s e := by
  have reads := (readOperand_reads limit limit).disjunction
  rw [parseChars_eq]
  constructor
  · intro h
    split at h
    · cases h
    · obtain ⟨⟨found, rest⟩, read, h⟩ := bind_eq_ok_iff.mp h
      rw [reads.skips] at read
      obtain ⟨text, split, isDisjunction⟩ := reads.sound read
      cases rest with
      | nil =>
          cases h
          rw [List.append_nil] at split
          rw [split]
          exact isDisjunction
      | cons c rest =>
          simp only at h
          split at h <;> cases h
  · intro h
    have read := readDisjunction_append (readOperand_reads limit limit) h
      (stopsAt_nil endsDisjunction)
    rw [List.append_nil] at read
    split
    · rename_i empty
      rw [← reads.skips, empty, readDisjunction_nil] at read
      cases read
    · rw [reads.skips, read]
      rfl

theorem parse_eq_ok_iff {limit : Nat} {text : String} {e : Expression} :
    parse limit text = .ok e ↔ Derives limit text.toList e := by
  rw [← parseChars_eq_ok_iff]
  unfold parse
  cases parseChars limit text.toList <;> simp

theorem Derives.unique {limit : Nat} {s : List Char} {e e' : Expression} (h : Derives limit s e)
    (h' : Derives limit s e') : e = e' := by
  have := (parseChars_eq_ok_iff.mpr h).symm.trans (parseChars_eq_ok_iff.mpr h')
  exact Except.ok.inj this

/-- A parser accepts the texts that its grammar derives and no others, each with the one expression
that the grammar gives it. -/
theorem parse_iff_derives (settings : Settings) (text : String) :
    (∀ e, parse settings.groupLimit text = .ok e ↔ Derives settings.groupLimit text.toList e) ∧
    (∀ e e', Derives settings.groupLimit text.toList e →
      Derives settings.groupLimit text.toList e' → e = e') := by
  refine ⟨fun e => parse_eq_ok_iff, ?_⟩
  intro e e' h h'
  exact h.unique h'

/-- One group is within a limit of one, and is a part of its own although `;` joins it. -/
theorem derives_one_group :
    Derives 1 "a==1 ; (b!=2;c=lt=3)".toList
      (.combination .all [.comparison "a" .equal "1",
        .combination .all [.comparison "b" .notEqual "2", .comparison "c" .less "3"]]) :=
  ((parse_iff_derives ⟨1, '*', []⟩ "a==1 ; (b!=2;c=lt=3)").1 _).mp (by decide +kernel)

end FilterQuery.Expression
