/-
# FilterQuery.Proofs.Reading.Groups -- when faults of parentheses are true

A disjunction leaves nothing, a parenthesis that closes, or a stray character
(`readDisjunction_leaves`).  A group that is blamed for not being closed therefore begins with a
whole filter and has nothing or a stray character behind that (`FailsInside`), however deep it is in
other groups (`readOperand_failsInside`) and whatever phrases stand in front of it.

A filter is balanced, so a group that begins with one is closed exactly if it is closed by what
stands behind (`closed_iff_strayInside`): if that is nothing, it is not.
-/
import FilterQuery.Proofs.Reading.Balance
import FilterQuery.Proofs.Reading.Blame

namespace FilterQuery

/-- A fault of parentheses, or of a character behind a whole filter. -/
def SyntaxCause.isOfGroup : SyntaxCause → Bool
  | .unclosedGroup | .unopenedGroup | .unexpected _ => true
  | _ => false

theorem SyntaxCause.not_isOfGroup_of_isOfComparison {cause : SyntaxCause}
    (h : cause.isOfComparison = true) : cause.isOfGroup = false := by
  cases cause <;> first | rfl | cases h

namespace Expression

open FilterQuery.Text

/-! ## What readers leave -/

section Leaves

variable {stop : Char → Bool} {item : (s : List Char) → Step Expression s} {kind : Connective}
  {s rest : List Char} {e : Expression}

theorem separated_leaves {separator : Char} {es : List Expression}
    (each : ∀ {s rest e}, outcome (item s) = .ok (e, rest) → StopsAt stop (dropBlank rest))
    (h : outcome (separated separator item s) = .ok (es, rest)) :
    StopsAt (fun c => stop c && c != separator) rest := by
  induction size : s.length using Nat.strong_induction_on generalizing s es with
  | _ n ih =>
    rw [outcome_separated] at h
    obtain ⟨⟨first, left⟩, readFirst, h⟩ := bind_eq_ok_iff.mp h
    have stops := each readFirst
    simp only at h
    split at h
    · obtain ⟨-, rfl⟩ := Prod.mk.inj (Except.ok.inj h)
      exact stopsAt_nil _
    · rename_i c tail next
      split at h
      · obtain ⟨⟨others, left'⟩, readOthers, h⟩ := bind_eq_ok_iff.mp h
        obtain ⟨-, rfl⟩ := Prod.mk.inj (Except.ok.inj h)
        have shorter : tail.length < n := by
          have := outcome_shorter readFirst
          have := dropBlank_length_le left
          rw [next, List.length_cons] at this
          omega
        exact ih tail.length shorter readOthers rfl
      · rename_i other
        obtain ⟨-, rfl⟩ := Prod.mk.inj (Except.ok.inj h)
        rw [next, stopsAt_cons] at stops
        rw [stopsAt_cons, stops, Bool.true_and]
        simpa using other

theorem readRun_leaves
    (each : ∀ {s rest e}, outcome (item s) = .ok (e, rest) → StopsAt stop (dropBlank rest))
    (h : outcome (readRun kind item s) = .ok (e, rest)) :
    StopsAt (fun c => stop c && c != kind.separator) rest := by
  rw [outcome_readRun] at h
  obtain ⟨⟨es, left⟩, read, h⟩ := bind_eq_ok_iff.mp h
  obtain ⟨-, rfl⟩ := Prod.mk.inj (Except.ok.inj h)
  exact separated_leaves each read

/-- A disjunction leaves a parenthesis or a stray character, if anything. -/
theorem readDisjunction_leaves (h : outcome (readDisjunction item s) = .ok (e, rest)) :
    StopsAt (fun c => isStray c || c == ')') rest := by
  have behindRun {s rest : List Char} {e : Expression}
      (h : outcome (readRun .all item s) = .ok (e, rest)) :
      StopsAt (fun c => !isBlank c && c != Connective.all.separator) (dropBlank rest) := by
    have stops := readRun_leaves (fun _ => stopsAt_dropWhile isBlank _) h
    rwa [dropBlank_of_stopsAt (stops.imp fun c left => (Bool.and_eq_true_iff.mp left).1)]
  refine (readRun_leaves behindRun h).imp fun c left => ?_
  by_cases closes : c = ')'
  · simp [closes]
  · simpa [isStray, Connective.separator, closes] using left

end Leaves

/-! ## Faults inside of filters -/

/-- A reader of a part of a filter fails for another reason, or at a group that begins with a whole
filter and does not end behind that. -/
inductive FailsInside : List Char → Blame → Prop where
  | other {s : List Char} {blame : Blame} : blame.cause.isOfGroup = false → FailsInside s blame
  | unclosed {front inside rest : List Char} : Place.outside.after front = .outside →
      IsFilter inside → StopsAt isStray rest →
      FailsInside (front ++ '(' :: (inside ++ rest)) ⟨.unclosedGroup, '(' :: (inside ++ rest)⟩

theorem FailsInside.behind {front s : List Char} {blame : Blame} (h : FailsInside s blame)
    (outside : Place.outside.after front = .outside) : FailsInside (front ++ s) blame := by
  cases h with
  | other cause => exact .other cause
  | unclosed further filter stops =>
      rw [← List.append_assoc]
      refine .unclosed ?_ filter stops
      rw [Place.after_append, outside, further]

section Run

variable {stop : Char → Bool} {item : (s : List Char) → Step Expression s}
  {Phrase : List Char → Expression → Prop} {kind : Connective} {s : List Char} {blame : Blame}

theorem separated_failsInside (reads : Reads stop item Phrase)
    (balanced : ∀ {s e}, Phrase s e → Balanced s)
    (fails : ∀ {s blame}, outcome (item s) = .error blame → FailsInside s blame)
    (h : outcome (separated kind.separator item s) = .error blame) : FailsInside s blame := by
  induction size : s.length using Nat.strong_induction_on generalizing s with
  | _ n ih =>
    rw [outcome_separated] at h
    rcases bind_eq_error_iff.mp h with inFirst | ⟨⟨e, left⟩, readFirst, h⟩
    · exact fails inFirst
    obtain ⟨phrase, splitFirst, isPhrase⟩ := reads.sound readFirst
    obtain ⟨after, blank, splitLeft⟩ := exists_blanks_append_dropBlank left
    simp only at h
    split at h
    · cases h
    · rename_i c tail next
      split at h
      · rename_i same
        obtain rfl : c = kind.separator := by simpa using same
        rcases bind_eq_error_iff.mp h with inOthers | ⟨_, _, impossible⟩
        · have whole : s = phrase ++ after ++ [kind.separator] ++ tail := by
            rw [splitFirst, splitLeft, next]
            simp
          have shorter : tail.length < n := by
            rw [← size, whole]
            simp only [List.length_append, List.length_cons]
            omega
          have front := ((balanced isPhrase).append (balanced_of_blanks blank)).append
            (balanced_separator kind)
          rw [whole]
          exact (ih tail.length shorter inOthers rfl).behind front.outside
        · cases impossible
      · cases h

theorem readRun_failsInside (reads : Reads stop item Phrase)
    (balanced : ∀ {s e}, Phrase s e → Balanced s)
    (fails : ∀ {s blame}, outcome (item s) = .error blame → FailsInside s blame)
    (h : outcome (readRun kind item s) = .error blame) : FailsInside s blame := by
  rw [outcome_readRun] at h
  rcases bind_eq_error_iff.mp h with inItems | ⟨_, _, impossible⟩
  · exact separated_failsInside reads balanced fails inItems
  · cases impossible

theorem readDisjunction_failsInside (reads : Reads isDelimiter item Phrase)
    (balanced : ∀ {s e}, Phrase s e → Balanced s)
    (fails : ∀ {s blame}, outcome (item s) = .error blame → FailsInside s blame)
    (h : outcome (readDisjunction item s) = .error blame) : FailsInside s blame :=
  readRun_failsInside reads.conjunction (balanced_of_runText balanced)
    (readRun_failsInside reads balanced fails) h

end Run

/-- The group, with the level below taken for granted; all that can be wrong elsewhere is a
comparison, or the character that an operand begins with. -/
theorem readOperand_failsInside_of_below {limit levels : Nat} {s : List Char} {blame : Blame}
    (below : ∀ {lower}, levels = lower + 1 → ∀ {s blame},
      outcome (readOperand limit lower s) = .error blame → FailsInside s blame)
    (h : outcome (readOperand limit levels s) = .error blame) : FailsInside s blame := by
  obtain ⟨before, blank, split⟩ := exists_blanks_append_dropBlank s
  have outside := (balanced_of_blanks blank).outside
  rw [outcome_readOperand] at h
  split at h
  · cases h
    exact .other rfl
  · rename_i c r start
    rw [start] at split
    split at h
    · rename_i isOpen
      obtain rfl : c = '(' := by simpa using isOpen
      cases levels with
      | zero =>
          cases h
          exact .other rfl
      | succ levels =>
          have reads := readOperand_reads limit levels
          rcases bind_eq_error_iff.mp h with inGroup | ⟨⟨e, left⟩, readInside, h⟩
          · have whole : s = before ++ ['('] ++ r := by simp [split]
            rw [whole]
            refine (readDisjunction_failsInside reads balanced_of_operandText (below rfl)
              inGroup).behind ?_
            rw [Place.after_append, outside]
            rfl
          · obtain ⟨inside, splitInside, derives⟩ := reads.disjunction.sound readInside
            have leaves := readDisjunction_leaves readInside
            have unclosed (stops : StopsAt isStray left) :
                FailsInside s ⟨.unclosedGroup, '(' :: r⟩ := by
              rw [split, splitInside]
              exact .unclosed outside ⟨levels, e, derives⟩ stops
            simp only at h
            split at h
            · cases h
              exact unclosed (stopsAt_nil _)
            · rename_i d rest
              split at h
              · cases h
              · rename_i notClose
                cases h
                refine unclosed ?_
                rw [stopsAt_cons] at leaves ⊢
                exact (Bool.or_eq_true_iff.mp leaves).resolve_right notClose
    · split at h
      · cases h
        exact .other rfl
      · split at h
        · cases h
          exact .other rfl
        · exact .other
            (SyntaxCause.not_isOfGroup_of_isOfComparison (isOfComparison_of_readComparison h))

theorem readOperand_failsInside (limit levels : Nat) {s : List Char} {blame : Blame}
    (h : outcome (readOperand limit levels s) = .error blame) : FailsInside s blame := by
  induction levels generalizing s blame with
  | zero => exact readOperand_failsInside_of_below (fun impossible => by cases impossible) h
  | succ levels ih =>
      refine readOperand_failsInside_of_below (fun same => ?_) h
      cases same
      exact ih

/-! ## Whole texts -/

/-- Blamed is what stands behind a whole filter, or a part of a filter. -/
theorem parseChars_fails {limit : Nat} {s : List Char} {blame : Blame}
    (h : parseChars limit s = .error blame) :
    FailsInside s blame ∨ ∃ filter c rest, s = filter ++ c :: rest ∧ IsFilter filter ∧
      (c = ')' ∧ blame = ⟨.unopenedGroup, c :: rest⟩ ∨
        isStray c = true ∧ blame = ⟨.unexpected c, c :: rest⟩) := by
  have reads := readOperand_reads limit limit
  obtain ⟨before, blank, split⟩ := exists_blanks_append_dropBlank s
  rw [parseChars_eq] at h
  split at h
  · cases h
    exact .inl (.other rfl)
  · rcases bind_eq_error_iff.mp h with inFilter | ⟨⟨e, rest⟩, read, h⟩
    · left
      rw [split]
      exact (readDisjunction_failsInside reads balanced_of_operandText
        (readOperand_failsInside limit limit) inFilter).behind (balanced_of_blanks blank).outside
    · right
      obtain ⟨text, splitText, derives⟩ := reads.disjunction.sound read
      have leaves := readDisjunction_leaves read
      have filter : IsFilter (before ++ text ++ []) :=
        ⟨limit, e, reads.disjunction.pads blank derives blanks_nil⟩
      rw [List.append_nil] at filter
      cases rest with
      | nil => cases h
      | cons c rest =>
          refine ⟨before ++ text, c, rest, by rw [split, splitText, List.append_assoc], filter, ?_⟩
          rw [stopsAt_cons] at leaves
          simp only at h
          split at h
          · rename_i closes
            cases h
            exact .inl ⟨by simpa using closes, rfl⟩
          · rename_i notClose
            cases h
            exact .inr ⟨(Bool.or_eq_true_iff.mp leaves).resolve_right notClose, rfl⟩

theorem standsAt_of_split {text : String} {before after : List Char} {c : Char}
    (split : text.toList = before ++ c :: after) (outside : Place.outside.after before = .outside) :
    StandsAt text (byteLength text.toList - byteLength (c :: after)) before c after :=
  ⟨split, by rw [split, byteLength_append, Nat.add_sub_cancel], outside⟩

/-- Behind a filter a group is closed by what is left, and what is left begins with a stray
character. -/
theorem closed_iff_strayInside {inside rest : List Char} (filter : IsFilter inside)
    (stops : StopsAt isStray rest) : Closed (inside ++ rest) ↔ StrayInside (inside ++ rest) := by
  constructor
  · intro closed
    have later := (closed_append_iff filter.balanced).mp closed
    cases rest with
    | nil => exact absurd later not_closed_nil
    | cons c rest => exact ⟨inside, c, rest, rfl, filter, stopsAt_cons.mp stops, later⟩
  · rintro ⟨inside', c, rest', split, filter', -, closed⟩
    rw [split]
    exact (closed_append_iff filter'.balanced).mpr closed

theorem blamesGroups_of_failsInside {text : String} {blame : Blame}
    (h : FailsInside text.toList blame) :
    BlamesGroups text ⟨byteLength text.toList - byteLength blame.rest, blame.cause⟩ := by
  generalize whole : text.toList = s at h
  cases h with
  | other cause =>
      refine ⟨fun same => ?_, fun same => ?_, fun c same => ?_⟩ <;>
        simp only at same <;> rw [same] at cause <;> cases cause
  | unclosed outside filter stops =>
      rw [← whole]
      exact ⟨nofun, fun _ => ⟨_, _, standsAt_of_split whole outside,
        closed_iff_strayInside filter stops⟩, nofun⟩

/-- **When faults of parentheses are true.**  A parenthesis that is blamed for closing no group
closes none.  One that is blamed for a group that is not closed opens such a group, unless a stray
character stands behind a filter in it; outside of groups that character is blamed itself. -/
theorem parse_blamesGroups (settings : Settings) {text : String} {fault : Malformed}
    (refused : parse settings.groupLimit text = .error fault) : BlamesGroups text fault := by
  obtain ⟨blame, failed, rfl⟩ := parse_eq_error_iff.mp refused
  rcases parseChars_fails failed with inside | ⟨filter, c, rest, split, isFilter, behind⟩
  · exact blamesGroups_of_failsInside inside
  · have stands := standsAt_of_split split isFilter.balanced.outside
    rcases behind with ⟨rfl, rfl⟩ | ⟨stray, rfl⟩
    · exact ⟨fun _ => ⟨filter, rest, stands, not_opened_of_balanced isFilter.balanced⟩, nofun,
        nofun⟩
    · refine ⟨nofun, nofun, fun d same => ?_⟩
      cases same
      exact ⟨filter, rest, stands, stray, isFilter, isFilter.balanced⟩

/-- A group that is not closed, since the parenthesis that follows is part of a value. -/
theorem parse_blamesGroups_quoted :
    parse 1 "a==1;(b=='é)'" = .error ⟨5, .unclosedGroup⟩ ∧
    BlamesGroups "a==1;(b=='é)'" ⟨5, .unclosedGroup⟩ ∧ ¬ Closed "b=='é)'".toList := by
  have refused : parse 1 "a==1;(b=='é)'" = .error ⟨5, .unclosedGroup⟩ := by decide +kernel
  exact ⟨refused, parse_blamesGroups ⟨1, '*', []⟩ refused, not_closed_of_balanced (by decide)⟩

/-- A character behind a quoted value: the group is closed, and is blamed for not being so.  Without
the group the character itself is blamed. -/
theorem parse_blames_closed_group :
    parse 1 "(a=='x'y)" = .error ⟨0, .unclosedGroup⟩ ∧
    StandsAt "(a=='x'y)" 0 [] '(' "a=='x'y)".toList ∧ Closed "a=='x'y)".toList ∧
    parse 1 "a=='x'y" = .error ⟨6, .unexpected 'y'⟩ := by
  refine ⟨by decide +kernel, ⟨rfl, rfl, rfl⟩, ⟨"a=='x'y".toList, [], rfl, by decide⟩, ?_⟩
  decide +kernel

end Expression

end FilterQuery
