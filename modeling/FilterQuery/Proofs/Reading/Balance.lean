/-
# FilterQuery.Proofs.Reading.Balance -- what balanced texts leave alone

The count of parentheses goes through a text part by part (`after?_append`), and groups that are
open around a part change nothing about it (`after?_deeper`).  So a balanced part can be left out
when the parenthesis is looked for that closes a group (`closed_append_iff`), and none that closes
or opens anything outside is in it (`not_closed_of_balanced`, `not_opened_of_balanced`).

Every phrase of the grammar is balanced, from its values to whole filters (`IsFilter.balanced`).
-/
import FilterQuery.Expression.Balance
import FilterQuery.Proofs.Reading.Derivation

namespace FilterQuery.Expression

open FilterQuery.Text

/-! ## Counting -/

section Counting

variable {n m : Nesting} {c : Char} {s t : List Char}

theorem Nesting.after?_append (n : Nesting) (s t : List Char) :
    n.after? (s ++ t) = (n.after? s).bind (·.after? t) :=
  List.foldlM_append

theorem Place.after_append (place : Place) (s t : List Char) :
    place.after (s ++ t) = (place.after s).after t :=
  List.foldl_append

/-- Parentheses do not change the place. -/
theorem place_of_next? (h : n.next? c = some m) : m.place = n.place.next c := by
  obtain ⟨place, depth⟩ := n
  unfold Nesting.next? at h
  split at h
  · rename_i opens
    obtain ⟨rfl, rfl⟩ := opens
    cases h
    rfl
  · split at h
    · rename_i closes
      obtain ⟨rfl, rfl⟩ := closes
      cases depth <;> cases h
      rfl
    · cases h
      rfl

theorem place_of_after? (h : n.after? s = some m) : m.place = n.place.after s := by
  induction s generalizing n with
  | nil =>
      cases h
      rfl
  | cons c s ih =>
      obtain ⟨next, step, rest⟩ := Option.bind_eq_some_iff.mp h
      rw [ih rest, place_of_next? step]
      rfl

theorem next?_deeper (more : Nat) (h : n.next? c = some m) :
    (Nesting.mk n.place (n.depth + more)).next? c = some ⟨m.place, m.depth + more⟩ := by
  obtain ⟨place, depth⟩ := n
  unfold Nesting.next? at h ⊢
  simp only at h ⊢
  split at h
  · rename_i opens
    cases h
    rw [if_pos opens, Nat.add_right_comm]
  · rename_i notOpen
    rw [if_neg notOpen]
    split at h
    · rename_i closes
      rw [if_pos closes]
      cases depth with
      | zero => cases h
      | succ depth =>
          cases h
          rw [Nat.add_right_comm]
    · rename_i notClose
      cases h
      rw [if_neg notClose]

/-- Groups that are open in front of a text are still open behind it. -/
theorem after?_deeper (more : Nat) (h : n.after? s = some m) :
    (Nesting.mk n.place (n.depth + more)).after? s = some ⟨m.place, m.depth + more⟩ := by
  induction s generalizing n with
  | nil =>
      cases h
      rfl
  | cons c s ih =>
      obtain ⟨next, step, rest⟩ := Option.bind_eq_some_iff.mp h
      exact Option.bind_eq_some_iff.mpr ⟨_, next?_deeper more step, ih rest⟩

end Counting

/-! ## Balanced texts -/

section Balanced

variable {s t : List Char}

theorem Balanced.at_depth (h : Balanced s) (depth : Nat) :
    (Nesting.mk .outside depth).after? s = some ⟨.outside, depth⟩ := by
  have deeper := after?_deeper depth h
  rwa [Nesting.start, Nat.zero_add] at deeper

theorem Balanced.outside (h : Balanced s) : Place.outside.after s = .outside :=
  (place_of_after? h).symm

/-- A balanced front makes no difference. -/
theorem Balanced.append_iff (h : Balanced s) : Balanced (s ++ t) ↔ Balanced t := by
  rw [Balanced, Nesting.after?_append, h, Option.bind_some, Balanced]

theorem Balanced.append (h : Balanced s) (h' : Balanced t) : Balanced (s ++ t) :=
  h.append_iff.mpr h'

theorem Balanced.group (h : Balanced s) : Balanced ('(' :: s ++ [')']) := by
  show (Nesting.mk .outside 1).after? (s ++ [')']) = some .start
  rw [Nesting.after?_append, h.at_depth 1]
  rfl

theorem not_balanced_close : ¬ Balanced (')' :: t) := by
  intro h
  cases h

theorem not_closed_nil : ¬ Closed [] := by
  rintro ⟨inside, behind, split, -⟩
  simp at split

/-- A balanced text does not close the group that it stands in. -/
theorem closed_append_iff (h : Balanced s) : Closed (s ++ t) ↔ Closed t := by
  constructor
  · rintro ⟨inside, behind, split, balanced⟩
    rcases List.append_eq_append_iff.mp split with ⟨more, rfl, rfl⟩ | ⟨more, rfl, later⟩
    · exact ⟨more, behind, rfl, h.append_iff.mp balanced⟩
    · cases more with
      | nil =>
          rw [List.nil_append] at later
          exact ⟨[], behind, later.symm, rfl⟩
      | cons d more =>
          -- The parenthesis would stand behind a balanced part of a balanced text.
          obtain ⟨rfl, -⟩ := List.cons_eq_cons.mp later
          exact absurd (balanced.append_iff.mp h) not_balanced_close
  · rintro ⟨inside, behind, rfl, balanced⟩
    exact ⟨s ++ inside, behind, by rw [List.append_assoc], h.append balanced⟩

theorem not_closed_of_balanced (h : Balanced s) : ¬ Closed s := by
  rw [← List.append_nil s, closed_append_iff h]
  exact not_closed_nil

/-- A balanced text opens no group that is open behind it. -/
theorem not_opened_of_balanced (h : Balanced s) : ¬ Opened s := by
  rintro ⟨front, inside, rfl, outside, balanced⟩
  rw [Balanced, Nesting.after?_append] at h
  obtain ⟨⟨place, depth⟩, reached, rest⟩ := Option.bind_eq_some_iff.mp h
  obtain rfl : place = .outside := (place_of_after? reached).trans outside
  have deeper : (Nesting.mk .outside depth).after? ('(' :: inside) = some ⟨.outside, depth + 1⟩ :=
    balanced.at_depth (depth + 1)
  rw [deeper] at rest
  cases rest

end Balanced

/-! ## Phrases -/

section Phrases

variable {s : List Char} {e : Expression}

theorem next?_of_not_isReserved {depth : Nat} {c : Char} (ordinary : isReserved c = false) :
    (Nesting.mk .outside depth).next? c = some ⟨.outside, depth⟩ := by
  simp only [isReserved, isDelimiter, Bool.or_eq_false_iff, beq_eq_false_iff_ne] at ordinary
  obtain ⟨⟨⟨⟨notOpen, notClose⟩, -⟩, -⟩, notQuote⟩ := ordinary
  simp [Nesting.next?, Place.next, notOpen, notClose, notQuote]

theorem balanced_of_not_isReserved (ordinary : ∀ c ∈ s, isReserved c = false) : Balanced s := by
  induction s with
  | nil => rfl
  | cons c s ih =>
      have first : Nesting.start.next? c = some .start :=
        next?_of_not_isReserved (ordinary c List.mem_cons_self)
      have others := ih fun d member => ordinary d (List.mem_cons_of_mem c member)
      exact Option.bind_eq_some_iff.mpr ⟨_, first, others⟩

theorem balanced_of_blanks (blank : Blanks s) : Balanced s :=
  balanced_of_not_isReserved fun c member => not_isReserved_of_isBlank (blank c member)

theorem after?_cons_of_inside {place : Place} (inside : place ≠ .outside) (c : Char)
    (t : List Char) :
    (Nesting.mk place 0).after? (c :: t) = (Nesting.mk (place.next c) 0).after? t := by
  simp [Nesting.after?, Nesting.next?, inside]

/-- In a quoted value parentheses are not counted. -/
theorem after?_of_quotedText {quote : Char} {value : List Char} (ordinary : quote ≠ '\\')
    (h : QuotedText quote s value) :
    (Nesting.mk (.quoted quote) 0).after? (s ++ [quote]) = some .start := by
  have inside : Place.quoted quote ≠ .outside := nofun
  have behindEscape : Place.escaped quote ≠ .outside := nofun
  induction h with
  | nil =>
      rw [List.nil_append, after?_cons_of_inside inside, Place.next, if_neg ordinary, if_pos rfl]
      rfl
  | escaped _ ih =>
      rw [List.cons_append, after?_cons_of_inside inside, Place.next, if_pos rfl, List.cons_append,
        after?_cons_of_inside behindEscape]
      exact ih
  | plain notEscape notQuote _ ih =>
      rw [List.cons_append, after?_cons_of_inside inside, Place.next, if_neg notEscape,
        if_neg notQuote]
      exact ih

theorem balanced_of_argumentText {value : List Char} (h : ArgumentText s value) : Balanced s := by
  cases h with
  | @quoted quote inside _ isQuote text =>
      have kinds : quote = '\'' ∨ quote = '"' := by
        simpa [Expression.isQuote] using isQuote
      have begins : Nesting.start.next? quote = some ⟨.quoted quote, 0⟩ := by
        rcases kinds with rfl | rfl <;> rfl
      have ordinary : quote ≠ '\\' := by
        rcases kinds with rfl | rfl <;> decide
      exact Option.bind_eq_some_iff.mpr ⟨_, begins, after?_of_quotedText ordinary text⟩
  | bare inside visible => exact balanced_of_not_isReserved inside

theorem not_isReserved_of_isSelectorChar {c : Char} (h : Selector.isSelectorChar c = true) :
    isReserved c = false := by
  have notDelimiter := not_isDelimiter_of_isSelectorChar h
  rw [isReserved, notDelimiter, Bool.false_or]
  by_contra quote
  simp only [isQuote, Bool.not_eq_false, Bool.or_eq_true, beq_iff_eq] at quote
  rcases quote with rfl | rfl <;> exact absurd h (by decide)

theorem spellings_not_isReserved :
    ∀ entry ∈ Comparator.spellings, entry.1.toList.all (!isReserved ·) = true := by
  decide

theorem balanced_of_comparisonText (h : ComparisonText s e) : Balanced s := by
  cases h with
  | mk isSelector before member after argument _ =>
      have field := balanced_of_not_isReserved fun c inField =>
        not_isReserved_of_isSelectorChar (isSelectorChar_of_selectorText isSelector c inField)
      have token := balanced_of_not_isReserved fun c inToken =>
        (Bool.not_eq_true' _).mp (List.all_eq_true.mp (spellings_not_isReserved _ member) c inToken)
      exact (((field.append (balanced_of_blanks before)).append token).append
        (balanced_of_blanks after)).append (balanced_of_argumentText argument)

section Runs

variable {Phrase : List Char → Expression → Prop}

theorem balanced_of_padded (each : ∀ {s e}, Phrase s e → Balanced s) (h : Padded Phrase s e) :
    Balanced s := by
  cases h with
  | mk before phrase after =>
      exact ((balanced_of_blanks before).append (each phrase)).append (balanced_of_blanks after)

theorem balanced_separator (kind : Connective) : Balanced [kind.separator] := by
  cases kind <;> rfl

theorem balanced_of_separatedText {kind : Connective} {es : List Expression}
    (each : ∀ {s e}, Phrase s e → Balanced s) (h : SeparatedText kind.separator Phrase s es) :
    Balanced s := by
  induction h with
  | one phrase => exact each phrase
  | more phrase _ ih => exact (each phrase).append ((balanced_separator kind).append ih)

theorem balanced_of_runText {kind : Connective} (each : ∀ {s e}, Phrase s e → Balanced s)
    (h : RunText kind Phrase s e) : Balanced s := by
  cases h with
  | single phrase => exact each phrase
  | several text _ => exact balanced_of_separatedText each text

theorem balanced_of_disjunctionText (each : ∀ {s e}, Phrase s e → Balanced s)
    (h : DisjunctionText Phrase s e) : Balanced s :=
  balanced_of_runText (balanced_of_runText each) h

end Runs

theorem balanced_of_operandText {levels : Nat} (h : OperandText levels s e) : Balanced s := by
  induction levels generalizing s e with
  | zero => exact balanced_of_padded balanced_of_comparisonText h
  | succ levels ih =>
      have inGroup {s : List Char} {e : Expression} (h : GroupText (OperandText levels) s e) :
          Balanced s := by
        cases h with
        | mk disjunction => exact (balanced_of_disjunctionText ih disjunction).group
      rcases h with comparison | group
      · exact balanced_of_padded balanced_of_comparisonText comparison
      · exact balanced_of_padded inGroup group

theorem IsFilter.balanced (h : IsFilter s) : Balanced s := by
  obtain ⟨limit, e, derives⟩ := h
  exact balanced_of_disjunctionText balanced_of_operandText derives

end Phrases

end FilterQuery.Expression
