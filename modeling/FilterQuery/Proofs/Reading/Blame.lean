/-
# FilterQuery.Proofs.Reading.Blame -- the text in front of a fault is not to blame

A part of a text is *viable* for a kind of phrase when more text behind it makes such a
phrase.  Every reader blames a place with a viable part in front of it (`Blames`): an
operand and a selector are blamed where they begin, an operator and a value behind a
comparison that lacks them, and a group that is not closed at its parenthesis.

What a reader has taken before it fails is made of whole phrases and of groups that are
open.  A run goes on behind its phrases (`separated_blames`), and a group that is viable
inside needs a parenthesis more (`readOperand_blames`); it was opened within the limit, so
the text with that parenthesis is within the limit too.
-/
import FilterQuery.Proofs.Reading.Derivation

namespace FilterQuery

/-- A fault that a text can have; the others are those of a token by itself and of a tree. -/
def SyntaxCause.isOfText : SyntaxCause → Bool
  | .unknownToken _ | .tooFewParts .. => false
  | _ => true

/-- A fault that a comparison can have. -/
def SyntaxCause.isOfComparison : SyntaxCause → Bool
  | .missingSelector | .invalidSelector _ | .unknownOperator _ | .missingOperator _ => true
  | .unterminatedQuote | .quoteInsideValue | .missingValue _ => true
  | _ => false

theorem SyntaxCause.isOfText_of_isOfComparison {cause : SyntaxCause}
    (h : cause.isOfComparison = true) : cause.isOfText = true := by
  cases cause <;> first | rfl | cases h

namespace Expression

open FilterQuery.Text

/-- More text makes a phrase of `front`. -/
def Viable {α : Type} (Phrase : List Char → α → Prop) (front : List Char) : Prop :=
  ∃ more a, Phrase (front ++ more) a

/-- The fault is one of texts, and a viable part of `s` stands in front of the blamed place. -/
structure Blames {α : Type} (Phrase : List Char → α → Prop) (s : List Char) (blame : Blame) :
    Prop where
  ofText : blame.cause.isOfText = true
  viable : ∃ front, s = front ++ blame.rest ∧ Viable Phrase front

section Blames

variable {α β : Type} {Phrase : List Char → α → Prop} {Phrase' : List Char → β → Prop}

/-- What is viable for a phrase is so, behind a part in front of it, for a larger phrase. -/
theorem Blames.within {s : List Char} {blame : Blame} (h : Blames Phrase s blame)
    (front : List Char)
    (larger : ∀ {part a}, Phrase part a → ∃ behind b, Phrase' (front ++ part ++ behind) b) :
    Blames Phrase' (front ++ s) blame := by
  obtain ⟨ofText, part, split, more, a, phrase⟩ := h
  obtain ⟨behind, b, phrase'⟩ := larger phrase
  refine ⟨ofText, front ++ part, by rw [split, List.append_assoc], more ++ behind, b, ?_⟩
  simpa only [List.append_assoc] using phrase'

theorem Blames.imp {s : List Char} {blame : Blame} (h : Blames Phrase s blame)
    (larger : ∀ {part a}, Phrase part a → ∃ b, Phrase' part b) : Blames Phrase' s blame := by
  obtain ⟨ofText, front, split, more, a, phrase⟩ := h
  exact ⟨ofText, front, split, more, larger phrase⟩

end Blames

/-! ## Comparisons -/

theorem argumentText_append_x {front : List Char} (inside : ∀ c ∈ front, isReserved c = false) :
    ArgumentText (front ++ ['x']) (trim (front ++ ['x'])) := by
  refine .bare ?_ ?_
  · intro c member
    rcases List.mem_append.mp member with member | member
    · exact inside c member
    · obtain rfl := List.mem_singleton.mp member
      decide
  · intro blank
    have := trim_eq_nil_iff.mp blank 'x' (by simp)
    exact absurd this (by decide)

/-- A comparison is viable behind its operator, and as long as its value is a bare one. -/
theorem viable_of_operator {field before after front : List Char} {token : String}
    {op : Comparator} (isSelector : SelectorText field) (blankBefore : Blanks before)
    (member : (token, op) ∈ Comparator.spellings) (blankAfter : Blanks after)
    (inside : ∀ c ∈ front, isReserved c = false) (longest : Longest token.toList (after ++ front)) :
    Viable ComparisonText (field ++ before ++ token.toList ++ after ++ front) := by
  have longest' : Longest token.toList (after ++ (front ++ ['x'])) := by
    by_cases nothing : after ++ front = []
    · obtain ⟨rfl, rfl⟩ := List.append_eq_nil_iff.mp nothing
      exact longest_of_no_equals member (by decide)
    · rw [← List.append_assoc]
      exact longest_append member nothing longest ['x']
  have comparison := ComparisonText.mk isSelector blankBefore member blankAfter
    (argumentText_append_x inside) longest'
  rw [← List.append_assoc _ front] at comparison
  exact ⟨['x'], _, comparison⟩

/-- A comparison is viable in front of its operator. -/
theorem viable_of_selector {field before : List Char} (isSelector : SelectorText field)
    (blank : Blanks before) : Viable ComparisonText (field ++ before) := by
  have equals : ("==", Comparator.equal) ∈ Comparator.spellings := by decide
  have longest : Longest "==".toList [] := longest_of_no_equals equals (by decide)
  have inside : ∀ c ∈ ([] : List Char), isReserved c = false := by simp
  obtain ⟨more, e, phrase⟩ :=
    viable_of_operator isSelector blank equals blanks_nil inside longest
  refine ⟨"==".toList ++ more, e, ?_⟩
  simpa only [List.append_assoc, List.append_nil] using phrase

theorem viable_comparison_nil : Viable ComparisonText [] := by
  obtain ⟨more, e, phrase⟩ := viable_of_selector (.name (s := ['x']) (by decide)) blanks_nil
  exact ⟨_, e, phrase⟩

theorem selector_blames {s : List Char} {blame : Blame}
    (h : outcome (selector s) = .error blame) :
    blame.cause.isOfComparison = true ∧ blame.rest = s := by
  rw [outcome_selector] at h
  split at h
  · cases h
    exact ⟨rfl, rfl⟩
  · split at h
    · cases h
    · cases h
      exact ⟨rfl, rfl⟩

theorem operator_blames {field : String} {s : List Char} {blame : Blame}
    (h : operator field s = .error blame) : blame.cause.isOfComparison = true ∧ blame.rest = s := by
  unfold operator at h
  split at h
  · cases h
  · split at h
    · cases h
      exact ⟨rfl, rfl⟩
    · cases h
      exact ⟨rfl, rfl⟩

theorem bare_blames {field : String} {s : List Char} {blame : Blame}
    (h : bare field s = .error blame) :
    blame.cause.isOfComparison = true ∧
      ∃ front, s = front ++ blame.rest ∧ ∀ c ∈ front, isReserved c = false := by
  unfold bare at h
  simp only at h
  split at h
  · cases h
    refine ⟨rfl, _, List.takeWhile_append_dropWhile.symm, fun c member => ?_⟩
    simpa using List.mem_takeWhile_imp member
  · split at h
    · cases h
      exact ⟨rfl, [], rfl, by simp⟩
    · cases h

/-- A value is blamed where it begins, or at a quote behind characters of a bare value. -/
theorem readArgument_blames {field : String} {s : List Char} {blame : Blame}
    (h : readArgument field s = .error blame) :
    blame.cause.isOfComparison = true ∧
      ∃ front, s = front ++ blame.rest ∧ ∀ c ∈ front, isReserved c = false := by
  unfold readArgument at h
  split at h
  · exact bare_blames h
  · split at h
    · split at h
      · cases h
      · cases h
        exact ⟨rfl, [], rfl, by simp⟩
    · exact bare_blames h

theorem readComparison_blames {s : List Char} {blame : Blame}
    (h : outcome (readComparison s) = .error blame) : Blames ComparisonText s blame := by
  rw [outcome_readComparison] at h
  rcases bind_eq_error_iff.mp h with inField | ⟨⟨field, afterField⟩, readField, h⟩
  · obtain ⟨ofComparison, place⟩ := selector_blames inField
    exact ⟨SyntaxCause.isOfText_of_isOfComparison ofComparison, [], place.symm,
      viable_comparison_nil⟩
  obtain ⟨run, rfl, isSelector, rfl⟩ := selector_sound readField
  obtain ⟨before, blankBefore, splitField⟩ := exists_blanks_append_dropBlank afterField
  rcases bind_eq_error_iff.mp h with inOperator | ⟨⟨op, afterOperator⟩, readOp, h⟩
  · obtain ⟨ofComparison, place⟩ := operator_blames inOperator
    refine ⟨SyntaxCause.isOfText_of_isOfComparison ofComparison, run ++ before, ?_,
      viable_of_selector isSelector blankBefore⟩
    rw [place, List.append_assoc, ← splitField]
  obtain ⟨token, member, splitToken, longest⟩ := longest_of_lex? (operator_eq_ok_iff.mp readOp)
  obtain ⟨after, blankAfter, splitOperator⟩ := exists_blanks_append_dropBlank afterOperator
  rcases bind_eq_error_iff.mp h with inValue | ⟨_, _, impossible⟩
  · obtain ⟨ofComparison, front, splitValue, inside⟩ := readArgument_blames inValue
    rw [splitOperator, splitValue, ← List.append_assoc] at longest
    refine ⟨SyntaxCause.isOfText_of_isOfComparison ofComparison,
      run ++ before ++ token.toList ++ after ++ front, ?_,
      viable_of_operator isSelector blankBefore member blankAfter inside
        (longest_of_longest_append longest)⟩
    rw [splitField, splitToken, splitOperator, splitValue]
    simp
  · cases impossible

/-- No comparison is blamed for what stands around it. -/
theorem isOfComparison_of_readComparison {s : List Char} {blame : Blame}
    (h : outcome (readComparison s) = .error blame) : blame.cause.isOfComparison = true := by
  rw [outcome_readComparison] at h
  rcases bind_eq_error_iff.mp h with inField | ⟨⟨field, afterField⟩, -, h⟩
  · exact (selector_blames inField).1
  rcases bind_eq_error_iff.mp h with inOperator | ⟨⟨op, afterOperator⟩, -, h⟩
  · exact (operator_blames inOperator).1
  rcases bind_eq_error_iff.mp h with inValue | ⟨_, _, impossible⟩
  · exact (readArgument_blames inValue).1
  · cases impossible

/-! ## Runs -/

section Run

variable {stop : Char → Bool} {item : (s : List Char) → Step Expression s}
  {Phrase : List Char → Expression → Prop}

theorem separated_blames (reads : Reads stop item Phrase)
    (blames : ∀ {s blame}, outcome (item s) = .error blame → Blames Phrase s blame)
    {separator : Char} {s : List Char} {blame : Blame}
    (h : outcome (separated separator item s) = .error blame) :
    Blames (SeparatedText separator Phrase) s blame := by
  induction size : s.length using Nat.strong_induction_on generalizing s with
  | _ n ih =>
    rw [outcome_separated] at h
    rcases bind_eq_error_iff.mp h with inFirst | ⟨⟨e, left⟩, readFirst, h⟩
    · exact (blames inFirst).imp fun phrase => ⟨_, .one phrase⟩
    obtain ⟨phrase, splitFirst, isPhrase⟩ := reads.sound readFirst
    obtain ⟨after, blank, splitLeft⟩ := exists_blanks_append_dropBlank left
    have padded : Phrase (phrase ++ after) e := by
      simpa using reads.pads blanks_nil isPhrase blank
    simp only at h
    split at h
    · cases h
    · rename_i c tail next
      split at h
      · rename_i same
        obtain rfl : c = separator := by simpa using same
        rcases bind_eq_error_iff.mp h with inOthers | ⟨_, _, impossible⟩
        · have whole : s = phrase ++ after ++ [c] ++ tail := by
            rw [splitFirst, splitLeft, next]
            simp
          have shorter : tail.length < n := by
            rw [← size, whole]
            simp only [List.length_append, List.length_cons]
            omega
          rw [whole]
          refine (ih tail.length shorter inOthers rfl).within _ fun {part es} others => ?_
          have text := SeparatedText.more padded others
          exact ⟨[], e :: es, by simpa using text⟩
        · cases impossible
      · cases h

theorem readRun_blames (reads : Reads stop item Phrase)
    (blames : ∀ {s blame}, outcome (item s) = .error blame → Blames Phrase s blame)
    {kind : Connective} {s : List Char} {blame : Blame}
    (h : outcome (readRun kind item s) = .error blame) : Blames (RunText kind Phrase) s blame := by
  rw [outcome_readRun] at h
  rcases bind_eq_error_iff.mp h with inItems | ⟨_, _, impossible⟩
  · exact (separated_blames reads blames inItems).imp fun text => ⟨_, runText_joined text⟩
  · cases impossible

theorem readDisjunction_blames (reads : Reads isDelimiter item Phrase)
    (blames : ∀ {s blame}, outcome (item s) = .error blame → Blames Phrase s blame)
    {s : List Char} {blame : Blame} (h : outcome (readDisjunction item s) = .error blame) :
    Blames (DisjunctionText Phrase) s blame :=
  readRun_blames reads.conjunction (readRun_blames reads blames) h

end Run

/-! ## Groups -/

/-- Where an operand may begin, a comparison may. -/
theorem viable_operand_of_blanks (levels : Nat) {before : List Char} (blank : Blanks before) :
    Viable (OperandText levels) before := by
  obtain ⟨more, e, phrase⟩ := viable_comparison_nil
  have padded := Padded.mk blank phrase blanks_nil
  rw [List.nil_append, List.append_nil] at padded
  exact ⟨more, e, operandText_of_comparison levels padded⟩

/-- The group, the comparison and the missing operand, with the level below taken for granted. -/
theorem readOperand_blames_of_below {limit levels : Nat} {s : List Char} {blame : Blame}
    (below : ∀ {lower}, levels = lower + 1 → ∀ {s blame},
      outcome (readOperand limit lower s) = .error blame → Blames (OperandText lower) s blame)
    (h : outcome (readOperand limit levels s) = .error blame) :
    Blames (OperandText levels) s blame := by
  obtain ⟨before, blank, split⟩ := exists_blanks_append_dropBlank s
  have atStart {cause : SyntaxCause} (ofText : cause.isOfText = true) :
      Blames (OperandText levels) s ⟨cause, dropBlank s⟩ :=
    ⟨ofText, before, split, viable_operand_of_blanks levels blank⟩
  rw [outcome_readOperand] at h
  cases start : dropBlank s with
  | nil =>
      rw [start] at h atStart
      cases h
      exact atStart rfl
  | cons c r =>
      rw [start] at h atStart split
      simp only at h
      split at h
      · rename_i isOpen
        obtain rfl : c = '(' := by simpa using isOpen
        cases levels with
        | zero =>
            cases h
            exact atStart rfl
        | succ levels =>
            rcases bind_eq_error_iff.mp h with inGroup | ⟨⟨e, left⟩, _, h⟩
            · have whole : s = before ++ ['('] ++ r := by simp [split]
              have inside := readDisjunction_blames (readOperand_reads limit levels) (below rfl)
                inGroup
              rw [whole]
              refine inside.within _ fun {part e} text => ?_
              have group := Padded.mk blank (GroupText.mk text) blanks_nil
              exact ⟨[')'], e, .inr (by simpa using group)⟩
            · simp only at h
              split at h
              · cases h
                exact atStart rfl
              · split at h
                · cases h
                · cases h
                  exact atStart rfl
      · split at h
        · cases h
          exact atStart rfl
        · split at h
          · cases h
            exact atStart rfl
          · rw [split]
            refine (readComparison_blames h).within before fun {part e} comparison => ?_
            exact ⟨[], e, operandText_of_comparison levels (.mk blank comparison blanks_nil)⟩

theorem readOperand_blames (limit levels : Nat) {s : List Char} {blame : Blame}
    (h : outcome (readOperand limit levels s) = .error blame) :
    Blames (OperandText levels) s blame := by
  induction levels generalizing s blame with
  | zero => exact readOperand_blames_of_below (fun impossible => by cases impossible) h
  | succ levels ih =>
      refine readOperand_blames_of_below (fun same => ?_) h
      cases same
      exact ih

/-! ## Whole texts -/

theorem parseChars_blames {limit : Nat} {s : List Char} {blame : Blame}
    (h : parseChars limit s = .error blame) : Blames (Derives limit) s blame := by
  have reads := readOperand_reads limit limit
  obtain ⟨before, blank, split⟩ := exists_blanks_append_dropBlank s
  rw [parseChars_eq] at h
  split at h
  · cases h
    obtain ⟨more, e, phrase⟩ := viable_operand_of_blanks limit blanks_nil
    exact ⟨rfl, [], rfl, more, e, .single (.single phrase)⟩
  · rw [split]
    rcases bind_eq_error_iff.mp h with inFilter | ⟨⟨e, rest⟩, read, h⟩
    · have inside := readDisjunction_blames reads (readOperand_blames limit limit) inFilter
      refine inside.within before fun {part e} text => ?_
      exact ⟨[], e, reads.disjunction.pads blank text blanks_nil⟩
    · -- What stands in front of the character that is left is a filter of its own.
      obtain ⟨text, splitText, isFilter⟩ := reads.disjunction.sound read
      have whole : Derives limit (before ++ text ++ []) e :=
        reads.disjunction.pads blank isFilter blanks_nil
      rw [splitText, ← List.append_assoc]
      cases rest with
      | nil => cases h
      | cons c rest =>
          simp only at h
          split at h
          · cases h
            exact ⟨rfl, _, rfl, [], e, whole⟩
          · cases h
            exact ⟨rfl, _, rfl, [], e, whole⟩

theorem parse_eq_error_iff {limit : Nat} {text : String} {fault : Malformed} :
    parse limit text = .error fault ↔ ∃ blame, parseChars limit text.toList = .error blame ∧
      fault = ⟨byteLength text.toList - byteLength blame.rest, blame.cause⟩ := by
  unfold parse
  cases parseChars limit text.toList with
  | error blame => simp [eq_comm]
  | ok e => simp

theorem isOfText_of_parse {limit : Nat} {text : String} {fault : Malformed}
    (refused : parse limit text = .error fault) : fault.cause.isOfText = true := by
  obtain ⟨blame, failed, rfl⟩ := parse_eq_error_iff.mp refused
  exact (parseChars_blames failed).ofText

/-- **The text in front of a fault is not to blame.**  The position of a fault is the end of a part
of the text, and with other text behind that part the same parser accepts. -/
theorem parse_blames_viable (settings : Settings) {text : String} {fault : Malformed}
    (refused : parse settings.groupLimit text = .error fault) :
    fault.position ≤ text.utf8ByteSize ∧
    ∃ before after : String, text = before ++ after ∧ before.utf8ByteSize = fault.position ∧
      ∃ more e, parse settings.groupLimit (before ++ more) = .ok e := by
  obtain ⟨blame, failed, rfl⟩ := parse_eq_error_iff.mp refused
  obtain ⟨-, front, split, more, e, derives⟩ := parseChars_blames failed
  have whole : text = String.ofList front ++ String.ofList blame.rest := by
    rw [← String.ofList_append, ← split, String.ofList_toList]
  have position : (String.ofList front).utf8ByteSize =
      byteLength text.toList - byteLength blame.rest := by
    rw [split, byteLength_append, Nat.add_sub_cancel, utf8ByteSize_ofList]
  refine ⟨?_, String.ofList front, String.ofList blame.rest, whole, position, String.ofList more, e,
    ?_⟩
  · have := congrArg String.utf8ByteSize whole
    rw [String.utf8ByteSize_append] at this
    simp only at position ⊢
    omega
  · rw [parse_eq_ok_iff, ← String.ofList_append, String.toList_ofList]
    exact derives

/-- An operand is missing behind a letter of two bytes, in the one group that there may be. -/
theorem parse_blames_viable_group :
    parse 1 "(a=='é';" = .error ⟨9, .missingOperand⟩ ∧ 9 ≤ "(a=='é';".utf8ByteSize ∧
    ∃ before after : String, "(a=='é';" = before ++ after ∧ before.utf8ByteSize = 9 ∧
      ∃ more e, parse 1 (before ++ more) = .ok e := by
  have refused : parse 1 "(a=='é';" = .error ⟨9, .missingOperand⟩ := by decide +kernel
  exact ⟨refused, parse_blames_viable ⟨1, '*', []⟩ refused⟩

end Expression

end FilterQuery
