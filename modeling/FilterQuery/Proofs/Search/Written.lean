/-
# FilterQuery.Proofs.Search.Written -- the comparisons that are written in a text

A text has at most one list of comparisons written in it (`Written.unique`): where it begins with a
blank or a delimiter there is no comparison (`written_cons_iff`), and where it begins with a
comparison there is one way to go on, because a reader that takes comparisons as a whole would go on
that way (`written_append_iff`).

A filter has one, by the rules of the grammar: the comparisons of its expression
(`written_of_derives`).
-/
import FilterQuery.Proofs.Reading.Derivation
import FilterQuery.Proofs.Search.Stages
import FilterQuery.Search.Image

namespace FilterQuery.Expression

open FilterQuery.Text

variable {s t phrase rest : List Char} {cs ds : List Comparison} {c : Comparison}

/-! ## From the front -/

theorem ComparisonText.not_between {d : Char} {e : Expression} (text : ComparisonText phrase e)
    (between : isBlank d = true ∨ isDelimiter d = true) : phrase ++ rest ≠ d :: s := by
  obtain ⟨first, r, rfl, selects⟩ := comparisonText_starts text
  intro same
  obtain ⟨rfl, -⟩ := List.cons.inj same
  rcases between with blank | delimiter
  · rw [not_isBlank_of_isSelectorChar selects] at blank
    cases blank
  · rw [not_isDelimiter_of_isSelectorChar selects] at delimiter
    cases delimiter

theorem ComparisonText.append_ne_nil {e : Expression} (text : ComparisonText phrase e) :
    phrase ++ rest ≠ [] := by
  obtain ⟨first, r, rfl, -⟩ := comparisonText_starts text
  exact List.cons_ne_nil _ _

theorem written_nil_iff : Written [] cs ↔ cs = [] := by
  constructor
  · intro written
    generalize front : ([] : List Char) = s at written
    cases written with
    | nil => rfl
    | between => cases front
    | comparison text => exact absurd front.symm text.append_ne_nil
  · rintro rfl
    exact .nil

/-- No comparison begins with a blank or a delimiter. -/
theorem written_cons_iff {d : Char} (between : isBlank d = true ∨ isDelimiter d = true) :
    Written (d :: s) cs ↔ Written s cs := by
  constructor
  · intro written
    generalize front : d :: s = text at written
    cases written with
    | nil => cases front
    | between _ written =>
        cases front
        exact written
    | comparison text => exact absurd front.symm (text.not_between between)
  · exact .between between

theorem written_dropBlank_iff : Written (dropBlank s) cs ↔ Written s cs := by
  induction s with
  | nil => rfl
  | cons d s ih =>
      by_cases blank : isBlank d = true
      · rw [dropBlank_cons_of_blank blank, written_cons_iff (.inl blank), ih]
      · rw [dropBlank_cons_of_not_blank (by simpa using blank)]

/-- A reader takes a comparison in front of a text, and leaves the text but for its blanks. -/
theorem readComparison_of_comparisonText {e : Expression} (text : ComparisonText phrase e)
    (stops : StopsAt isDelimiter (dropBlank rest)) :
    ∃ left, outcome (readComparison (phrase ++ rest)) = .ok (e, left) ∧
      dropBlank left = dropBlank rest := by
  obtain ⟨blanks, blank, split⟩ := exists_blanks_append_dropBlank rest
  have read := readComparison_append text blank stops
  rwa [← split] at read

/-- Where a comparison stands, it is the first one, and the others stand behind it. -/
theorem written_append_iff (text : ComparisonText phrase (.comparison c.field c.op c.value))
    (stops : StopsAt isDelimiter (dropBlank rest)) :
    Written (phrase ++ rest) cs ↔ ∃ others, cs = c :: others ∧ Written rest others := by
  constructor
  · intro written
    generalize whole : phrase ++ rest = s at written
    cases written with
    | nil => exact absurd whole text.append_ne_nil
    | between between => exact absurd whole (text.not_between between)
    | @comparison phrase' rest' c' others text' stops' written =>
        obtain ⟨left, read, dropped⟩ := readComparison_of_comparisonText text stops
        obtain ⟨left', read', dropped'⟩ := readComparison_of_comparisonText text' stops'
        -- both are what the reader takes
        rw [whole, read'] at read
        obtain ⟨same, rfl⟩ := Prod.mk.inj (Except.ok.inj read)
        cases c
        cases c'
        cases same
        refine ⟨others, rfl, ?_⟩
        rw [← written_dropBlank_iff, ← dropped, dropped', written_dropBlank_iff]
        exact written
  · rintro ⟨others, rfl, written⟩
    exact .comparison text stops written

theorem Written.unique (first : Written s cs) (second : Written s ds) : cs = ds := by
  induction first generalizing ds with
  | nil => exact (written_nil_iff.mp second).symm
  | between between _ ih => exact ih ((written_cons_iff between).mp second)
  | comparison text stops _ ih =>
      obtain ⟨others, rfl, written⟩ := (written_append_iff text stops).mp second
      rw [ih written]

/-! ## Phrases -/

theorem Written.append (first : Written s cs) (stops : StopsAt isDelimiter (dropBlank t))
    (second : Written t ds) : Written (s ++ t) (cs ++ ds) := by
  induction first with
  | nil => exact second
  | between between _ ih => exact .between between ih
  | @comparison phrase rest c cs text ends _ ih =>
      rw [List.append_assoc]
      refine .comparison text ?_ ih
      by_cases blank : dropBlank rest = []
      · rwa [dropBlank_blanks_append (dropBlank_eq_nil_iff.mp blank)]
      · rw [dropBlank_append blank]
        exact (stopsAt_append blank).mpr ends

theorem written_of_blanks (blank : Blanks s) : Written s [] := by
  rw [← written_dropBlank_iff, dropBlank_eq_nil_iff.mpr blank]
  exact .nil

theorem Written.padded {before after : List Char} (written : Written s cs)
    (blankBefore : Blanks before) (blankAfter : Blanks after) :
    Written (before ++ s ++ after) cs := by
  have stops : StopsAt isDelimiter (dropBlank after) := by
    rw [dropBlank_eq_nil_iff.mpr blankAfter]
    exact stopsAt_nil _
  rw [← written_dropBlank_iff, List.append_assoc, dropBlank_blanks_append blankBefore,
    written_dropBlank_iff]
  simpa using written.append stops (written_of_blanks blankAfter)

theorem written_of_comparison {e : Expression} (h : Padded ComparisonText s e) :
    Written s e.comparisons := by
  obtain ⟨blankBefore, text, blankAfter⟩ := h
  refine Written.padded ?_ blankBefore blankAfter
  cases e with
  | combination => cases text
  | comparison field op value =>
      have ends : StopsAt isDelimiter (dropBlank []) := stopsAt_nil _
      have written := Written.comparison (c := ⟨field, op, value⟩) text ends .nil
      rwa [List.append_nil] at written

theorem stopsAt_delimiter {d : Char} (delimiter : isDelimiter d = true) (s : List Char) :
    StopsAt isDelimiter (dropBlank (d :: s)) := by
  have stops : StopsAt isDelimiter (d :: s) := stopsAt_cons.mpr delimiter
  rwa [dropBlank_of_delimiter stops]

section Runs

variable {Phrase : List Char → Expression → Prop}
  (phrases : ∀ {s e}, Phrase s e → Written s e.comparisons)

include phrases

theorem SeparatedText.written {separator : Char} {es : List Expression}
    (ends : isDelimiter separator = true) (h : SeparatedText separator Phrase s es) :
    Written s (comparisonsAll es) := by
  induction h with
  | one phrase => simpa [comparisonsAll] using phrases phrase
  | @more s t e es phrase _ ih =>
      exact (phrases phrase).append (stopsAt_delimiter ends t) (.between (.inr ends) ih)

theorem RunText.written {kind : Connective} {e : Expression} (h : RunText kind Phrase s e) :
    Written s e.comparisons := by
  cases h with
  | single phrase => exact phrases phrase
  | several text => exact SeparatedText.written phrases (by cases kind <;> decide) text

theorem DisjunctionText.written {e : Expression} (h : DisjunctionText Phrase s e) :
    Written s e.comparisons :=
  RunText.written (fun run => RunText.written phrases run) h

end Runs

theorem OperandText.written {levels : Nat} {e : Expression} (h : OperandText levels s e) :
    Written s e.comparisons := by
  induction levels generalizing s e with
  | zero => exact written_of_comparison h
  | succ levels ih =>
      rcases h with comparison | group
      · exact written_of_comparison comparison
      · obtain ⟨blankBefore, ⟨isDisjunction⟩, blankAfter⟩ := group
        have inside := DisjunctionText.written ih isDisjunction
        have closed := inside.append (stopsAt_delimiter (d := ')') (by decide) [])
          (.between (.inr (by decide)) .nil)
        rw [List.append_nil] at closed
        exact Written.padded (.between (.inr (by decide)) closed) blankBefore blankAfter

/-- The comparisons that are written in a filter are those of its expression. -/
theorem written_of_derives {limit : Nat} {e : Expression} (h : Derives limit s e) :
    Written s e.comparisons :=
  DisjunctionText.written OperandText.written h

end FilterQuery.Expression
