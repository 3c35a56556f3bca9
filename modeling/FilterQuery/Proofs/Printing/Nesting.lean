/-
# FilterQuery.Proofs.Printing.Nesting -- the canonical text and the limit of groups

The printer writes parentheses around every combination in a combination, so the
canonical text of a tree needs `depth` levels of groups and no fewer.  With fewer,
there is a first part that opens one group too many; all parts in front of it are
read as what they are, and the text is refused because of it (`fails_chars`).

A tree that was read is well formed (`Derives.wellFormed`), but it need not print
within the limit that its own text was within: `;` joins more closely than `,`
without parentheses, and they are written all the same.  A group of the text can
become two of the canonical text, and a limit of `n` groups can need `2 * n + 1`
(`Derives.depth_le`).
-/
import FilterQuery.Proofs.Printing.Canonical

namespace FilterQuery.Expression

open FilterQuery.Text

/-! ## Failures that nothing behind them prevents -/

/-- The reader fails with `cause` at `text`, whatever stands behind. -/
def Fails {α : Type} (cause : SyntaxCause) (item : (s : List Char) → Step α s)
    (text : List Char) : Prop :=
  ∀ rest, ∃ left, outcome (item (text ++ rest)) = .error ⟨cause, left⟩

section Fails

variable {cause : SyntaxCause} {item : (s : List Char) → Step Expression s} {text : List Char}

theorem Fails.append (h : Fails cause item text) (more : List Char) :
    Fails cause item (text ++ more) := by
  intro rest
  rw [List.append_assoc]
  exact h (more ++ rest)

theorem Fails.separated (h : Fails cause item text) (separator : Char) :
    Fails cause (separated separator item) text := by
  intro rest
  obtain ⟨left, failed⟩ := h rest
  refine ⟨left, ?_⟩
  rw [outcome_separated, failed]
  rfl

theorem Fails.run {kind : Connective}
    (h : Fails cause (Expression.separated kind.separator item) text) :
    Fails cause (readRun kind item) text := by
  intro rest
  obtain ⟨left, failed⟩ := h rest
  refine ⟨left, ?_⟩
  rw [outcome_readRun, failed]
  rfl

theorem Fails.ofItem {kind : Connective} (h : Fails cause item text) :
    Fails cause (readRun kind item) text :=
  (h.separated kind.separator).run

theorem exists_charsAll_cons (kind : Connective) (e : Expression) (es : List Expression) :
    ∃ more, charsAll kind (e :: es) = operandChars e ++ more := by
  cases es with
  | nil => exact ⟨[], by simp [charsAll]⟩
  | cons d ds => exact ⟨_, rfl⟩

theorem Fails.behind {stop : Char → Bool} {Phrase : List Char → Expression → Prop}
    (reads : Reads stop item Phrase) {separator : Char} (stopsItem : stop separator = true)
    {front : List Char} {e : Expression} (phrase : Phrase front e)
    (h : Fails cause (Expression.separated separator item) text) :
    Fails cause (Expression.separated separator item) (front ++ separator :: text) := by
  intro rest
  obtain ⟨left, failed⟩ := h rest
  have delimited : StopsAt stop (separator :: (text ++ rest)) := by
    simp [stopsItem]
  obtain ⟨behind, read, dropped⟩ := reads.complete phrase delimited
  have whole : front ++ separator :: text ++ rest = front ++ separator :: (text ++ rest) := by
    simp
  refine ⟨left, ?_⟩
  rw [whole, outcome_separated, read]
  simp only [bind, Except.bind, dropped, beq_self_eq_true, if_true, failed]

/-- If each part fails or is read, the parts in front of the first that fails are read. -/
theorem fails_charsAll {stop : Char → Bool} {Phrase : List Char → Expression → Prop}
    (reads : Reads stop item Phrase) {kind : Connective} (stopsItem : stop kind.separator = true)
    {es : List Expression}
    (each : ∀ e ∈ es, Fails cause item (operandChars e) ∨ Phrase (operandChars e) e)
    (one : ∃ e ∈ es, Fails cause item (operandChars e)) :
    Fails cause (separated kind.separator item) (charsAll kind es) := by
  induction es with
  | nil => simp at one
  | cons e es ih =>
      by_cases failing : Fails cause item (operandChars e)
      · obtain ⟨more, split⟩ := exists_charsAll_cons kind e es
        rw [split]
        exact (failing.append more).separated kind.separator
      · have phrase := (each e (by simp)).resolve_left failing
        obtain ⟨d, member, failing'⟩ := one
        have later : d ∈ es := by
          rcases List.mem_cons.mp member with rfl | member
          · exact absurd failing' failing
          · exact member
        obtain ⟨d', ds, rfl⟩ := List.exists_cons_of_ne_nil (List.ne_nil_of_mem later)
        have behind := ih (fun e member => each e (by simp [member])) ⟨d, later, failing'⟩
        exact behind.behind reads stopsItem phrase

theorem fails_combination {Phrase : List Char → Expression → Prop}
    (reads : Reads isDelimiter item Phrase) (kind : Connective) {es : List Expression}
    (each : ∀ e ∈ es, Fails cause item (operandChars e) ∨ Phrase (operandChars e) e)
    (one : ∃ e ∈ es, Fails cause item (operandChars e)) :
    Fails cause (readDisjunction item) (charsAll kind es) := by
  cases kind with
  | all =>
      have conjunction : Fails cause (readRun .all item) (charsAll .all es) :=
        (fails_charsAll reads rfl each one).run
      exact conjunction.ofItem
  | any =>
      apply Fails.run
      apply fails_charsAll reads.conjunction rfl
      · intro e member
        exact (each e member).imp .ofItem RunText.single
      · obtain ⟨e, member, failing⟩ := one
        exact ⟨e, member, failing.ofItem⟩

end Fails

/-! ## Too many groups -/

theorem fails_charsAll_of_depth {limit levels : Nat} (kind : Connective) {es : List Expression}
    (wellFormed : ∀ e ∈ es, WellFormed e) (deep : levels < depthAll es)
    (parts : ∀ e ∈ es, levels < e.parens →
      Fails (.tooDeep limit) (readOperand limit levels) (operandChars e)) :
    Fails (.tooDeep limit) (readDisjunction (readOperand limit levels)) (charsAll kind es) := by
  refine fails_combination (readOperand_reads limit levels) kind ?_ ?_
  · intro e member
    by_cases fits : e.parens ≤ levels
    · exact .inr (operandText_operandChars (wellFormed e member) fits)
    · exact .inl (parts e member (not_le.mp fits))
  · obtain ⟨e, member, deeper⟩ := lt_depthAll_iff.mp deep
    exact ⟨e, member, parts e member deeper⟩

theorem fails_operandChars {limit levels : Nat} {e : Expression} (wellFormed : WellFormed e)
    (deep : levels < e.parens) :
    Fails (.tooDeep limit) (readOperand limit levels) (operandChars e) := by
  induction wellFormed generalizing levels with
  | comparison => exact absurd deep (Nat.not_lt_zero _)
  | @combination kind parts _ wellFormed ih =>
      intro rest
      have front : dropBlank (operandChars (.combination kind parts) ++ rest) =
          '(' :: (charsAll kind parts ++ ')' :: rest) := by
        simp only [operandChars, List.append_assoc, List.cons_append, List.nil_append]
        exact dropBlank_cons_of_not_blank (by decide)
      cases levels with
      | zero =>
          rw [outcome_readOperand, front]
          exact ⟨_, rfl⟩
      | succ levels =>
          have inside : levels < depthAll parts := by
            simp only [parens, depth] at deep
            omega
          have failing := fails_charsAll_of_depth kind wellFormed inside
            fun e member => ih e member
          obtain ⟨left, failed⟩ := failing (')' :: rest)
          refine ⟨left, ?_⟩
          rw [outcome_readOperand, front]
          simp only [beq_self_eq_true, if_true, failed, bind, Except.bind]

/-- The canonical text of a tree that nests too deep is refused for that. -/
theorem fails_chars {limit : Nat} {e : Expression} (wellFormed : WellFormed e)
    (deep : limit < e.depth) :
    Fails (.tooDeep limit) (readDisjunction (readOperand limit limit)) e.chars := by
  cases wellFormed with
  | comparison => exact absurd deep (Nat.not_lt_zero _)
  | combination _ wellFormed =>
      exact fails_charsAll_of_depth _ wellFormed deep fun e member deeper =>
        fails_operandChars (wellFormed e member) deeper

theorem parse_fails {cause : SyntaxCause} {limit : Nat} {text : String}
    (h : Fails cause (readDisjunction (readOperand limit limit)) text.toList)
    (notMissing : cause ≠ .missingOperand) :
    ∃ fault, parse limit text = .error fault ∧ fault.cause = cause := by
  obtain ⟨left, failed⟩ := h []
  rw [List.append_nil, ← (readOperand_reads limit limit).disjunction.skips] at failed
  have visible : dropBlank text.toList ≠ [] := by
    intro empty
    rw [empty, readDisjunction_nil] at failed
    cases failed
    exact notMissing rfl
  have refused : parseChars limit text.toList = .error ⟨cause, left⟩ := by
    rw [parseChars_eq, if_neg visible, failed]
    rfl
  refine ⟨⟨byteLength text.toList - byteLength left, cause⟩, ?_, rfl⟩
  rw [parse, refused]

/-! ## The canonical text -/

theorem parse_print_of_depth_le {limit : Nat} {e : Expression} (wellFormed : WellFormed e)
    (fits : e.depth ≤ limit) : parse limit e.print = .ok e := by
  rw [parse_eq_ok_iff, print, String.toList_ofList]
  exact derives_chars wellFormed fits

theorem parse_print_of_lt_depth {limit : Nat} {e : Expression} (wellFormed : WellFormed e)
    (deep : limit < e.depth) :
    ∃ fault, parse limit e.print = .error fault ∧ fault.cause = .tooDeep limit := by
  refine parse_fails ?_ (by simp)
  rw [print, String.toList_ofList]
  exact fails_chars wellFormed deep

/-- The canonical text of a well-formed tree is read as that tree if the limit allows as many
groups as it nests, and is refused for its groups if it does not. -/
theorem parse_print (settings : Settings) {e : Expression} (wellFormed : WellFormed e) :
    (e.depth ≤ settings.groupLimit → parse settings.groupLimit e.print = .ok e) ∧
    (settings.groupLimit < e.depth →
      ∃ fault, parse settings.groupLimit e.print = .error fault ∧
        fault.cause = .tooDeep settings.groupLimit ∧
        fault.cause.message =
          "Groups nested deeper than " ++ toString settings.groupLimit ++ " levels") := by
  refine ⟨parse_print_of_depth_le wellFormed, fun deep => ?_⟩
  obtain ⟨fault, refused, cause⟩ := parse_print_of_lt_depth wellFormed deep
  exact ⟨fault, refused, cause, by rw [cause]; rfl⟩

/-- One part with parentheses: read with one level of groups, refused with none.  The values need
quotes because of a blank, because of a quote, and because there is nothing. -/
theorem parse_print_one_group :
    let e := Expression.combination .any
      [.comparison "a" .equal " x", .combination .all
        [.comparison "b.c" .notEqual "say \"\\\"", .comparison "d" .greaterOrEqual ""]]
    parse 1 e.print = .ok e ∧
      ∃ fault, parse 0 e.print = .error fault ∧ fault.cause = .tooDeep 0 := by
  have a : SelectorText ['a'] := .name (by decide)
  have b : SelectorText ['b', '.', 'c'] := .dotted (s := ['b']) (by decide) (.name (by decide))
  have d : SelectorText ['d'] := .name (by decide)
  intro e
  have wellFormed : WellFormed e := by
    refine .combination (by decide) ?_
    simp only [List.forall_mem_cons]
    refine ⟨.comparison a, .combination (by decide) ?_, by simp⟩
    simpa using ⟨.comparison b, .comparison d⟩
  refine ⟨(parse_print ⟨1, '*', []⟩ wellFormed).1 (by decide), ?_⟩
  obtain ⟨fault, refused, cause, -⟩ := (parse_print ⟨0, '*', []⟩ wellFormed).2 (by decide)
  exact ⟨fault, refused, cause⟩

/-! ## Trees that were read -/

section Read

variable {Phrase : List Char → Expression → Prop}

theorem SeparatedText.forall_of {separator : Char} {s : List Char} {es : List Expression}
    {property : Expression → Prop} (h : SeparatedText separator Phrase s es)
    (phrases : ∀ {s e}, Phrase s e → property e) : ∀ e ∈ es, property e := by
  induction h with
  | one phrase => simpa using phrases phrase
  | more phrase _ ih => simpa using ⟨phrases phrase, ih⟩

theorem RunText.wellFormed {kind : Connective} {s : List Char} {e : Expression}
    (h : RunText kind Phrase s e) (phrases : ∀ {s e}, Phrase s e → WellFormed e) :
    WellFormed e := by
  cases h with
  | single phrase => exact phrases phrase
  | several text atLeastTwo => exact .combination atLeastTwo (text.forall_of phrases)

theorem DisjunctionText.wellFormed {s : List Char} {e : Expression}
    (h : DisjunctionText Phrase s e) (phrases : ∀ {s e}, Phrase s e → WellFormed e) :
    WellFormed e :=
  RunText.wellFormed h fun run => run.wellFormed phrases

end Read

theorem wellFormed_of_comparison {s : List Char} {e : Expression}
    (h : Padded ComparisonText s e) : WellFormed e := by
  obtain ⟨-, ⟨isSelector⟩, -⟩ := h
  exact .comparison (by rwa [String.toList_ofList])

theorem OperandText.wellFormed {levels : Nat} {s : List Char} {e : Expression}
    (h : OperandText levels s e) : WellFormed e := by
  induction levels generalizing s e with
  | zero => exact wellFormed_of_comparison h
  | succ levels ih =>
      rcases h with comparison | group
      · exact wellFormed_of_comparison comparison
      · obtain ⟨-, ⟨isDisjunction⟩, -⟩ := group
        exact isDisjunction.wellFormed ih

theorem Derives.wellFormed {limit : Nat} {s : List Char} {e : Expression}
    (h : Derives limit s e) : WellFormed e :=
  DisjunctionText.wellFormed h OperandText.wellFormed

theorem depth_le_of_parens_le {e : Expression} {n : Nat} (h : e.parens ≤ n + 1) : e.depth ≤ n := by
  cases e with
  | comparison => exact Nat.zero_le n
  | combination =>
      simp only [parens] at h
      omega

theorem RunText.parens_le {Phrase : List Char → Expression → Prop} {kind : Connective}
    {s : List Char} {e : Expression} {n : Nat} (h : RunText kind Phrase s e)
    (phrases : ∀ {s e}, Phrase s e → e.parens ≤ n) : e.parens ≤ n + 1 := by
  cases h with
  | single phrase => exact Nat.le_succ_of_le (phrases phrase)
  | several text =>
      have : depthAll _ ≤ n := depthAll_le_iff.mpr (text.forall_of phrases)
      simp only [parens, depth]
      omega

theorem DisjunctionText.parens_le {Phrase : List Char → Expression → Prop} {s : List Char}
    {e : Expression} {n : Nat} (h : DisjunctionText Phrase s e)
    (phrases : ∀ {s e}, Phrase s e → e.parens ≤ n) : e.parens ≤ n + 2 :=
  RunText.parens_le h fun run => run.parens_le phrases

theorem parens_of_comparison {s : List Char} {e : Expression}
    (h : Padded ComparisonText s e) : e.parens = 0 := by
  obtain ⟨-, ⟨-⟩, -⟩ := h
  rfl

/-- A group of the text makes two of the canonical text at most: one of its own, and one around a
conjunction in it. -/
theorem OperandText.parens_le {levels : Nat} {s : List Char} {e : Expression}
    (h : OperandText levels s e) : e.parens ≤ 2 * levels := by
  induction levels generalizing s e with
  | zero => exact le_of_eq (parens_of_comparison h)
  | succ levels ih =>
      rcases h with comparison | group
      · rw [parens_of_comparison comparison]
        exact Nat.zero_le _
      · obtain ⟨-, ⟨isDisjunction⟩, -⟩ := group
        exact isDisjunction.parens_le ih

theorem Derives.depth_le {limit : Nat} {s : List Char} {e : Expression} (h : Derives limit s e) :
    e.depth ≤ 2 * limit + 1 :=
  depth_le_of_parens_le (DisjunctionText.parens_le h OperandText.parens_le)

/-- What was read is read again from its canonical text exactly if that nests no more groups than
the limit allows.  If it does nest more, it is refused for them, and it nests no more than twice as
many and one. -/
theorem parse_print_of_parse (settings : Settings) {text : String} {e : Expression}
    (read : parse settings.groupLimit text = .ok e) :
    (parse settings.groupLimit e.print = .ok e ↔ e.depth ≤ settings.groupLimit) ∧
    (settings.groupLimit < e.depth →
      ∃ fault, parse settings.groupLimit e.print = .error fault ∧
        fault.cause = .tooDeep settings.groupLimit) ∧
    e.depth ≤ 2 * settings.groupLimit + 1 := by
  have derives := parse_eq_ok_iff.mp read
  have wellFormed := derives.wellFormed
  refine ⟨⟨?_, parse_print_of_depth_le wellFormed⟩, parse_print_of_lt_depth wellFormed,
    derives.depth_le⟩
  intro again
  by_contra deep
  obtain ⟨fault, refused, -⟩ := parse_print_of_lt_depth wellFormed (not_le.mp deep)
  rw [again] at refused
  cases refused

/-- A group that prints within the limit it was read with. -/
theorem parse_print_group_kept :
    ∃ e, parse 1 "a == 1; (b == 2, c == 3)" = .ok e ∧ e.depth = 1 ∧ parse 1 e.print = .ok e := by
  have read : parse 1 "a == 1; (b == 2, c == 3)" = .ok (.combination .all
      [.comparison "a" .equal "1", .combination .any
        [.comparison "b" .equal "2", .comparison "c" .equal "3"]]) := by
    decide +kernel
  exact ⟨_, read, rfl, (parse_print_of_parse ⟨1, '*', []⟩ read).1.mpr (by decide)⟩

/-- One group is within the limit of the text, but the conjunction in the group has parentheses of
its own in the canonical text, which are one too many. -/
theorem printed_group_refuted :
    (⟨1, '*', []⟩ : Settings).check = .ok () ∧
    ∃ e, parse (Settings.groupLimit ⟨1, '*', []⟩) "(a==1;b==2,c==3);d==4" = .ok e ∧
      e.print = "((a==1;b==2),c==3);d==4" ∧
      parse (Settings.groupLimit ⟨1, '*', []⟩) e.print = .error ⟨1, .tooDeep 1⟩ := by
  refine ⟨by decide, .combination .all
    [.combination .any [.combination .all [.comparison "a" .equal "1", .comparison "b" .equal "2"],
      .comparison "c" .equal "3"], .comparison "d" .equal "4"], ?_, ?_, ?_⟩ <;>
  decide +kernel

end FilterQuery.Expression
