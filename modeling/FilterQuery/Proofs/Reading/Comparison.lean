/-
# FilterQuery.Proofs.Reading.Comparison -- the reader of comparisons and its grammar

Tokens are tried from the longest to the shortest, so the one that is found is the
longest that the text begins with (`longest_of_lex?`, `lex?_of_longest`), and only an
equals sign could make it longer (`longer_token_cases`).  A quoted value ends at the
first quote without a backslash in front (`quoted?_eq_some_iff`), a bare one at the
first delimiter (`bare_append`).

Together: what is taken for a comparison is one (`readComparison_sound`), and a
comparison is taken as a whole when blanks and then a delimiter or the end stand
behind it (`readComparison_append`); of those blanks a bare value takes some along.
-/
import FilterQuery.Proofs.Reading.Selector

namespace FilterQuery.Expression

open FilterQuery.Text

/-! ## Operators -/

theorem spellings_longest_first :
    Comparator.spellings.Pairwise fun a b => b.1.toList.length ≤ a.1.toList.length := by
  decide

theorem spellings_unique :
    ∀ a ∈ Comparator.spellings, ∀ b ∈ Comparator.spellings, a.1.toList = b.1.toList → a = b := by
  decide

theorem longest_of_lex? {s rest : List Char} {op : Comparator}
    (h : Comparator.lex? s = some (op, rest)) :
    ∃ token, (token, op) ∈ Comparator.spellings ∧ s = token.toList ++ rest ∧
      Longest token.toList rest := by
  obtain ⟨before, ⟨token, op'⟩, behind, split, found, missed⟩ := List.findSome?_eq_some_iff.mp h
  obtain ⟨left, isLeft, pair⟩ := Option.map_eq_some_iff.mp found
  obtain ⟨rfl, rfl⟩ := Prod.mk.inj pair
  have front : s = token.toList ++ left := after?_eq_some_iff.mp isLeft
  refine ⟨token, by simp [split], front, ?_⟩
  intro entry member starts
  rw [split] at member
  rcases List.mem_append.mp member with earlier | later
  · -- an earlier token would have been found in place of this one
    obtain ⟨more, same⟩ := starts
    have := missed entry earlier
    rw [front, ← same, Option.map_eq_none_iff, after?_append] at this
    cases this
  · rcases List.mem_cons.mp later with rfl | later
    · exact le_refl _
    · have sorted := spellings_longest_first
      rw [split, List.pairwise_append, List.pairwise_cons] at sorted
      exact sorted.2.1.1 entry later

theorem lex?_of_longest {token : String} {op : Comparator} {rest : List Char}
    (member : (token, op) ∈ Comparator.spellings) (longest : Longest token.toList rest) :
    Comparator.lex? (token.toList ++ rest) = some (op, rest) := by
  have found : (Comparator.lex? (token.toList ++ rest)).isSome = true := by
    rw [Comparator.lex?, List.findSome?_isSome_iff]
    exact ⟨(token, op), member, by simp [after?_append]⟩
  obtain ⟨⟨op', rest'⟩, h⟩ := Option.isSome_iff_exists.mp found
  obtain ⟨token', member', split, longest'⟩ := longest_of_lex? h
  have le := longest _ member' ⟨rest', split.symm⟩
  have ge := longest' _ member ⟨rest, split⟩
  have same : token.toList = token'.toList ∧ rest = rest' :=
    List.append_inj split (Nat.le_antisymm ge le)
  obtain ⟨rfl, rfl⟩ := Prod.mk.inj (spellings_unique _ member _ member' same.1)
  rw [h, same.2]

theorem operator_eq_ok_iff {field : String} {s rest : List Char} {op : Comparator} :
    operator field s = .ok (op, rest) ↔ Comparator.lex? s = some (op, rest) := by
  unfold operator
  cases Comparator.lex? s with
  | some found => simp
  | none => cases customOperator? s <;> simp

/-! ## Quoted values -/

theorem quoted?_eq_some_iff {quote : Char} (ordinary : quote ≠ '\\') {s value rest : List Char} :
    quoted? quote s = some (value, rest) ↔
      ∃ inside, s = inside ++ quote :: rest ∧ QuotedText quote inside value := by
  constructor
  · intro h
    fun_induction quoted? quote s generalizing value with
    | case1 => cases h
    | case2 c r ih =>
        obtain ⟨⟨v, left⟩, found, pair⟩ := Option.map_eq_some_iff.mp h
        obtain ⟨rfl, rfl⟩ := Prod.mk.inj pair
        obtain ⟨inside, rfl, text⟩ := ih found
        exact ⟨'\\' :: c :: inside, rfl, .escaped text⟩
    | case3 => cases h
    | case4 c r _ _ close =>
        obtain ⟨rfl, rfl⟩ := Prod.mk.inj (Option.some.inj h)
        exact ⟨[], by simp [beq_iff_eq.mp close], .nil⟩
    | case5 c r _ notBackslash notClose ih =>
        obtain ⟨⟨v, left⟩, found, pair⟩ := Option.map_eq_some_iff.mp h
        obtain ⟨rfl, rfl⟩ := Prod.mk.inj pair
        obtain ⟨inside, rfl, text⟩ := ih found
        exact ⟨c :: inside, rfl, .plain (by simpa using notBackslash) (by simpa using notClose) text⟩
  · rintro ⟨inside, rfl, text⟩
    induction text with
    | nil => simp [quoted?, ordinary]
    | escaped _ ih => simp [quoted?, ih]
    | plain notBackslash notClose _ ih => simp [quoted?, notBackslash, notClose, ih]

/-! ## Characters that end a value -/

theorem isReserved_of_isDelimiter {c : Char} (h : isDelimiter c = true) : isReserved c = true := by
  simp [isReserved, h]

theorem not_isBlank_of_isReserved {c : Char} (h : isReserved c = true) : isBlank c = false := by
  simp only [isReserved, isDelimiter, isQuote, Bool.or_eq_true, beq_iff_eq] at h
  rcases h with (((rfl | rfl) | rfl) | rfl) | (rfl | rfl) <;> decide

theorem not_isQuote_of_isDelimiter {c : Char} (h : isDelimiter c = true) : isQuote c = false := by
  simp only [isDelimiter, Bool.or_eq_true, beq_iff_eq] at h
  rcases h with ((rfl | rfl) | rfl) | rfl <;> decide

theorem not_isReserved_of_isBlank {c : Char} (h : isBlank c = true) : isReserved c = false := by
  by_contra reserved
  have := not_isBlank_of_isReserved (by simpa using reserved)
  rw [h] at this
  cases this

theorem dropBlank_of_delimiter {rest : List Char} (stops : StopsAt isDelimiter rest) :
    dropBlank rest = rest :=
  dropBlank_of_stopsAt (stops.imp fun c h => by
    simp [not_isBlank_of_isReserved (isReserved_of_isDelimiter h)])

/-! ## Bare values -/

theorem bare_sound {field : String} {s value rest : List Char}
    (h : bare field s = .ok (value, rest)) :
    ∃ run, s = run ++ rest ∧ ArgumentText run value := by
  unfold bare at h
  simp only at h
  split at h
  · cases h
  · split at h
    · cases h
    · rename_i visible
      obtain ⟨rfl, rfl⟩ := Prod.mk.inj (Except.ok.inj h)
      refine ⟨_, List.takeWhile_append_dropWhile.symm, .bare ?_ (by simpa using visible)⟩
      intro c member
      simpa using List.mem_takeWhile_imp member

/-- A bare value is trimmed, so blanks in front of it and behind it do not count. -/
theorem bare_append {run after rest : List Char} (field : String)
    (inside : ∀ c ∈ run, isReserved c = false) (visible : trim run ≠ []) (blank : Blanks after)
    (stops : StopsAt isDelimiter rest) :
    bare field (dropBlank (run ++ (after ++ rest))) = .ok (trim run, rest) := by
  have notBlank := dropBlank_ne_nil_of_trim visible
  have chars : ∀ c ∈ dropBlank run ++ after, (!isReserved c) = true := by
    intro c member
    rcases List.mem_append.mp member with member | member
    · simp [inside c ((List.dropWhile_suffix isBlank).subset member)]
    · simp [not_isReserved_of_isBlank (blank c member)]
  have stopsRun : StopsAt (fun c => !(!isReserved c)) rest :=
    stops.imp fun c h => by simp [isReserved_of_isDelimiter h]
  have noQuote : rest.head?.any isQuote = false := by
    cases rest with
    | nil => rfl
    | cons c rest => exact not_isQuote_of_isDelimiter (by simpa using stops)
  rw [dropBlank_append notBlank, ← List.append_assoc, bare]
  simp only [takeWhile_append_of_stop chars stopsRun, dropWhile_append_of_stop chars stopsRun,
    noQuote, trim_append_blanks _ blank, trim_dropBlank]
  simp [visible]

/-! ## Arguments -/

theorem argumentText_ne_nil {s value : List Char} (h : ArgumentText s value) : s ≠ [] := by
  rintro rfl
  generalize empty : [] = s at h
  cases h with
  | quoted => cases empty
  | bare _ visible =>
      subst empty
      exact visible rfl

theorem readArgument_sound {field : String} {s value rest : List Char}
    (h : readArgument field s = .ok (value, rest)) :
    ∃ argument, s = argument ++ rest ∧ ArgumentText argument value := by
  unfold readArgument at h
  split at h
  · exact bare_sound h
  · rename_i c r
    split at h
    · rename_i quote
      split at h
      · rename_i found same
        cases h
        have ordinary : c ≠ '\\' := by
          rintro rfl
          exact absurd quote (by decide)
        obtain ⟨inside, rfl, text⟩ := (quoted?_eq_some_iff ordinary).mp same
        exact ⟨c :: inside ++ [c], by simp, .quoted quote text⟩
      · cases h
    · exact bare_sound h

theorem readArgument_eq_bare {s : List Char} (field : String)
    (noQuote : StopsAt (fun c => !isQuote c) s) : readArgument field s = bare field s := by
  cases s with
  | nil => rfl
  | cons c r =>
      have : isQuote c = false := by simpa using noQuote
      simp [readArgument, this]

theorem readArgument_append {argument value after rest : List Char} (field : String)
    (text : ArgumentText argument value) (blank : Blanks after) (stops : StopsAt isDelimiter rest) :
    ∃ left, readArgument field (dropBlank (argument ++ (after ++ rest))) = .ok (value, left) ∧
      dropBlank left = rest := by
  cases text with
  | @quoted quote inside _ isQ text =>
      refine ⟨after ++ rest, ?_, ?_⟩
      · have ordinary : quote ≠ '\\' := by
          rintro rfl
          exact absurd isQ (by decide)
        have visible : isBlank quote = false :=
          not_isBlank_of_isReserved (by simp [isReserved, isQ])
        have read : quoted? quote (inside ++ quote :: (after ++ rest)) = some (value, after ++ rest) :=
          (quoted?_eq_some_iff ordinary).mpr ⟨inside, rfl, text⟩
        simp only [List.append_assoc, List.cons_append, List.nil_append,
          dropBlank_cons_of_not_blank visible, readArgument, isQ, if_true, read]
      · rw [dropBlank_blanks_append blank, dropBlank_of_delimiter stops]
  | bare inside visible =>
      refine ⟨rest, ?_, dropBlank_of_delimiter stops⟩
      have noQuote : StopsAt (fun c => !isQuote c) (dropBlank (argument ++ (after ++ rest))) := by
        have nonempty := dropBlank_ne_nil_of_trim visible
        rw [dropBlank_append nonempty, stopsAt_append nonempty]
        intro c member
        have := inside c ((List.dropWhile_suffix isBlank).subset (List.mem_of_mem_head? member))
        simp only [isReserved, Bool.or_eq_false_iff] at this
        simp [this.2]
      rw [readArgument_eq_bare field noQuote, bare_append field inside visible blank stops]

/-! ## Comparisons -/

theorem longest_of_longest_append {token rest more : List Char}
    (h : Longest token (rest ++ more)) : Longest token rest := by
  intro entry member starts
  refine h entry member (starts.trans ?_)
  rw [← List.append_assoc]
  exact List.prefix_append _ _

theorem spellings_extend_by_equals :
    ∀ a ∈ Comparator.spellings, ∀ b ∈ Comparator.spellings, a.1.toList <+: b.1.toList →
      b.1.toList = a.1.toList ∨ b.1.toList = a.1.toList ++ ['='] := by
  decide

/-- Only an equals sign can make a token longer. -/
theorem longer_token_cases {token : String} {op : Comparator} {rest : List Char}
    (member : (token, op) ∈ Comparator.spellings) {entry : String × Comparator}
    (entryMember : entry ∈ Comparator.spellings) (starts : entry.1.toList <+: token.toList ++ rest) :
    entry.1.toList.length ≤ token.toList.length ∨
      entry.1.toList = token.toList ++ ['='] ∧ rest.head? = some '=' := by
  rw [or_iff_not_imp_left]
  intro longer
  have front : token.toList <+: entry.1.toList :=
    List.prefix_of_prefix_length_le (List.prefix_append _ _) starts (by omega)
  rcases spellings_extend_by_equals _ member entry entryMember front with same | extended
  · exact absurd (le_of_eq (congrArg List.length same)) longer
  · rw [extended, List.prefix_append_right_inj] at starts
    obtain ⟨more, rfl⟩ := starts
    exact ⟨extended, rfl⟩

theorem longest_of_no_equals {token : String} {op : Comparator} {rest : List Char}
    (member : (token, op) ∈ Comparator.spellings) (ends : rest.head? ≠ some '=') :
    Longest token.toList rest := by
  intro entry entryMember starts
  exact (longer_token_cases member entryMember starts).resolve_right fun longer => ends longer.2

/-- One character behind a token decides whether it is the longest. -/
theorem longest_append {token : String} {op : Comparator} {rest : List Char}
    (member : (token, op) ∈ Comparator.spellings) (nonempty : rest ≠ [])
    (longest : Longest token.toList rest) (more : List Char) :
    Longest token.toList (rest ++ more) := by
  intro entry entryMember starts
  rcases longer_token_cases member entryMember starts with short | ⟨extended, next⟩
  · exact short
  · refine longest entry entryMember ?_
    obtain ⟨c, r, rfl⟩ := List.exists_cons_of_ne_nil nonempty
    obtain rfl : c = '=' := by simpa using next
    rw [extended, List.prefix_append_right_inj]
    exact List.prefix_append ['='] r

/-- What is taken for a comparison is one. -/
theorem readComparison_sound {s rest : List Char} {e : Expression}
    (h : outcome (readComparison s) = .ok (e, rest)) :
    ∃ phrase, s = phrase ++ rest ∧ ComparisonText phrase e := by
  rw [outcome_readComparison] at h
  obtain ⟨⟨field, afterField⟩, readField, h⟩ := bind_eq_ok_iff.mp h
  obtain ⟨⟨op, afterOperator⟩, readOp, h⟩ := bind_eq_ok_iff.mp h
  obtain ⟨⟨value, left⟩, readValue, h⟩ := bind_eq_ok_iff.mp h
  obtain ⟨rfl, rfl⟩ := Prod.mk.inj (Except.ok.inj h)
  obtain ⟨run, rfl, isSelector, rfl⟩ := selector_sound readField
  obtain ⟨before, blankBefore, splitField⟩ := exists_blanks_append_dropBlank afterField
  obtain ⟨token, member, splitToken, longest⟩ := longest_of_lex? (operator_eq_ok_iff.mp readOp)
  obtain ⟨after, blankAfter, splitOperator⟩ := exists_blanks_append_dropBlank afterOperator
  obtain ⟨argument, splitArgument, isArgument⟩ := readArgument_sound readValue
  rw [splitOperator, splitArgument, ← List.append_assoc] at longest
  refine ⟨run ++ before ++ token.toList ++ after ++ argument, ?_,
    .mk isSelector blankBefore member blankAfter isArgument (longest_of_longest_append longest)⟩
  rw [splitField, splitToken, splitOperator, splitArgument]
  simp

theorem spellings_begin :
    ∀ entry ∈ Comparator.spellings,
      entry.1.toList.head?.any (fun c => !Selector.isSelectorChar c && !isBlank c) = true := by
  decide

theorem token_starts {token : String} {op : Comparator}
    (member : (token, op) ∈ Comparator.spellings) :
    ∃ c r, token.toList = c :: r ∧ Selector.isSelectorChar c = false ∧ isBlank c = false := by
  have starts := spellings_begin _ member
  cases split : token.toList with
  | nil => simp [split] at starts
  | cons c r => exact ⟨c, r, rfl, by simpa [split] using starts⟩

/-- A comparison is taken as a whole, whatever delimiter ends it. -/
theorem readComparison_append {phrase after rest : List Char} {e : Expression}
    (h : ComparisonText phrase e) (blank : Blanks after) (stops : StopsAt isDelimiter rest) :
    ∃ left, outcome (readComparison (phrase ++ (after ++ rest))) = .ok (e, left) ∧
      dropBlank left = rest := by
  cases h with
  | @mk field before between argument value token op isSelector blankBefore member blankBetween
      isArgument longest =>
      obtain ⟨c, r, front, notSelector, notBlank⟩ := token_starts member
      have fieldEnds : StopsAt (fun c => !Selector.isSelectorChar c)
          (before ++ (token.toList ++ (between ++ (argument ++ (after ++ rest))))) := by
        cases before with
        | nil => simp [front, notSelector]
        | cons d _ => simp [not_isSelectorChar_of_isBlank (blankBefore d (by simp))]
      have tokenFront : StopsAt (fun c => !isBlank c)
          (token.toList ++ (between ++ (argument ++ (after ++ rest)))) := by
        simp [front, notBlank]
      have lexed := lex?_of_longest member
        (longest_append member (by simp [argumentText_ne_nil isArgument]) longest (after ++ rest))
      obtain ⟨left, readValue, dropped⟩ :=
        readArgument_append (String.ofList field) isArgument blank stops
      have whole : field ++ before ++ token.toList ++ between ++ argument ++ (after ++ rest) =
          field ++ (before ++ (token.toList ++ (between ++ (argument ++ (after ++ rest))))) := by
        simp only [List.append_assoc]
      refine ⟨left, ?_, dropped⟩
      rw [List.append_assoc] at lexed
      rw [whole, outcome_readComparison, outcome_selector_append isSelector fieldEnds]
      simp only [bind, Except.bind]
      rw [dropBlank_blanks_append blankBefore, dropBlank_of_stopsAt tokenFront,
        operator_eq_ok_iff.mpr lexed]
      simp only [dropBlank_blanks_append blankBetween, readValue]
      rfl

end FilterQuery.Expression
