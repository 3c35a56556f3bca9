/-
# FilterQuery.Proofs.Printing.Canonical -- what the canonical text is read as

The canonical text of a well-formed tree derives from the grammar, with groups
nested as deep as `depth` says (`derives_chars`): a value is quoted where a bare one
would be read as something else (`argumentText_argument`), a canonical token is the
longest at its place whatever stands behind (`longest_text`), and each part is an
operand of its own.
-/
import FilterQuery.Proofs.Reading.Derivation
import Mathlib.Data.List.Basic

namespace FilterQuery.Expression

open FilterQuery.Text

/-! ## Nesting -/

/-- The parentheses that an expression nests as a part: its own, and those inside. -/
def parens : Expression → Nat
  | .comparison .. => 0
  | .combination kind parts => 1 + depth (.combination kind parts)

theorem depthAll_cons (e : Expression) (es : List Expression) :
    depthAll (e :: es) = max e.parens (depthAll es) := by
  cases e with
  | comparison => simp [depthAll, parens]
  | combination => simp [depthAll, parens]

theorem lt_depthAll_iff {n : Nat} {es : List Expression} :
    n < depthAll es ↔ ∃ e ∈ es, n < e.parens := by
  induction es with
  | nil => simp [depthAll]
  | cons e es ih =>
      rw [depthAll_cons, List.exists_mem_cons_iff, ← ih]
      omega

theorem depthAll_le_iff {n : Nat} {es : List Expression} :
    depthAll es ≤ n ↔ ∀ e ∈ es, e.parens ≤ n := by
  simpa using not_congr (@lt_depthAll_iff n es)

/-! ## Comparisons -/

theorem quotedText_escape (value : List Char) : QuotedText '"' (escape value) value := by
  induction value with
  | nil => exact .nil
  | cons c r ih =>
      unfold escape
      split
      · exact .escaped ih
      · rename_i ordinary
        simp only [Bool.or_eq_true, beq_iff_eq, not_or] at ordinary
        exact .plain ordinary.2 ordinary.1 ih

theorem argumentText_argument (value : List Char) : ArgumentText (argument value) value := by
  unfold argument
  split
  · exact .quoted rfl (quotedText_escape value)
  · rename_i bare
    simp only [needsQuotes, Bool.or_eq_true, List.isEmpty_iff, bne_iff_ne, not_or,
      Bool.not_eq_true, List.any_eq_false, not_not] at bare
    obtain ⟨⟨visible, trimmed⟩, ordinary⟩ := bare
    have := ArgumentText.bare (s := value) (by simpa using ordinary) (by rwa [trimmed])
    rwa [trimmed] at this

theorem text_mem_spellings (op : Comparator) : (op.text, op) ∈ Comparator.spellings := by
  cases op <;> decide

theorem text_begins_no_other (op : Comparator) :
    ∀ entry ∈ Comparator.spellings, op.text.toList <+: entry.1.toList →
      entry.1.toList.length ≤ op.text.toList.length := by
  cases op <;> decide

/-- No token goes on where a canonical token ends. -/
theorem longest_text (op : Comparator) (rest : List Char) : Longest op.text.toList rest := by
  intro entry member starts
  by_contra longer
  rw [not_le] at longer
  have front := List.prefix_of_prefix_length_le (List.prefix_append op.text.toList rest) starts
    (le_of_lt longer)
  exact absurd (text_begins_no_other op entry member front) (not_le.mpr longer)

theorem comparisonText_chars {field : String} (op : Comparator) (value : String)
    (isSelector : SelectorText field.toList) :
    ComparisonText (field.toList ++ op.text.toList ++ argument value.toList)
      (.comparison field op value) := by
  have := ComparisonText.mk isSelector blanks_nil (text_mem_spellings op) blanks_nil
    (argumentText_argument value.toList) (longest_text op _)
  simpa using this

/-! ## Combinations -/

section Parts

variable {P Q : List Char → Expression → Prop}

theorem SeparatedText.imp {separator : Char} {s : List Char} {es : List Expression}
    (h : SeparatedText separator P s es) (imp : ∀ {s e}, P s e → Q s e) :
    SeparatedText separator Q s es := by
  induction h with
  | one phrase => exact .one (imp phrase)
  | more phrase _ ih => exact .more (imp phrase) ih

theorem separatedText_charsAll (kind : Connective) {es : List Expression} (nonempty : es ≠ [])
    (parts : ∀ e ∈ es, P (operandChars e) e) :
    SeparatedText kind.separator P (charsAll kind es) es := by
  induction es with
  | nil => exact absurd rfl nonempty
  | cons e es ih =>
      have first := parts e (by simp)
      cases es with
      | nil => exact .one first
      | cons d ds => exact .more first (ih (by simp) fun e member => parts e (by simp [member]))

theorem disjunctionText_combination {kind : Connective} {s : List Char} {es : List Expression}
    (atLeastTwo : 2 ≤ es.length) (h : SeparatedText kind.separator P s es) :
    DisjunctionText P s (.combination kind es) := by
  cases kind with
  | all => exact .single (.several h atLeastTwo)
  | any => exact .several (h.imp .single) atLeastTwo

end Parts

theorem disjunctionText_charsAll {levels : Nat} (kind : Connective) {parts : List Expression}
    (atLeastTwo : 2 ≤ parts.length)
    (operands : ∀ e ∈ parts, OperandText levels (operandChars e) e) :
    DisjunctionText (OperandText levels) (charsAll kind parts) (.combination kind parts) := by
  have nonempty : parts ≠ [] := by
    rintro rfl
    simp at atLeastTwo
  exact disjunctionText_combination atLeastTwo (separatedText_charsAll kind nonempty operands)

theorem operandText_operandChars {e : Expression} (wellFormed : WellFormed e) {levels : Nat}
    (fits : e.parens ≤ levels) : OperandText levels (operandChars e) e := by
  induction wellFormed generalizing levels with
  | @comparison field op value isSelector =>
      have := Padded.mk blanks_nil (comparisonText_chars op value isSelector) blanks_nil
      rw [List.nil_append, List.append_nil] at this
      exact operandText_of_comparison levels this
  | @combination kind parts atLeastTwo _ ih =>
      obtain ⟨levels, rfl⟩ : ∃ lower, levels = lower + 1 :=
        Nat.exists_eq_add_of_le' (le_trans (Nat.le_add_right 1 _) fits)
      have inside : depthAll parts ≤ levels := by
        simp only [parens, depth] at fits
        omega
      have operands : ∀ e ∈ parts, OperandText levels (operandChars e) e := fun e member =>
        ih e member (depthAll_le_iff.mp inside e member)
      have group := GroupText.mk (disjunctionText_charsAll kind atLeastTwo operands)
      have := Padded.mk blanks_nil group blanks_nil
      rw [List.nil_append, List.append_nil] at this
      exact .inr this

/-- The canonical text of a tree derives, and stands for the tree. -/
theorem derives_chars {e : Expression} (wellFormed : WellFormed e) {limit : Nat}
    (fits : e.depth ≤ limit) : Derives limit e.chars e := by
  cases wellFormed with
  | @comparison field op value isSelector =>
      have : OperandText limit (operandChars (.comparison field op value)) _ :=
        operandText_operandChars (.comparison isSelector) (Nat.zero_le _)
      exact .single (.single this)
  | @combination kind parts atLeastTwo wellFormed =>
      refine disjunctionText_charsAll kind atLeastTwo fun e member => ?_
      exact operandText_operandChars (wellFormed e member) (depthAll_le_iff.mp fits e member)

end FilterQuery.Expression
