/-
# FilterQuery.Proofs.Reading.Selector -- selectors are names with dots between them

The reader of selectors takes a run of selector characters and asks only how the
parts between its dots begin; the grammar builds a selector from whole names.
Both describe the same texts (`selectorText_iff`), so the reader takes exactly a
selector when no selector character stands behind it (`outcome_selector_append`),
and takes nothing else (`selector_sound`).
-/
import FilterQuery.Proofs.Reading.Outcome
import FilterQuery.Proofs.Text.Trim
import Mathlib.Data.Nat.Init

namespace FilterQuery.Expression

open FilterQuery.Text

/-! ## Characters of names and of selectors -/

theorem isNameChar_of_isSelectorChar {c : Char} (h : Selector.isSelectorChar c = true)
    (notDot : c ≠ '.') : isNameChar c = true := by
  simpa [Selector.isSelectorChar, isNameChar, notDot] using h

theorem isSelectorChar_of_isNameChar {c : Char} (h : isNameChar c = true) :
    Selector.isSelectorChar c = true := by
  simp only [isNameChar, Selector.isSelectorChar, Bool.or_eq_true] at h ⊢
  exact .inl h

theorem isNameChar_of_isNameStart {c : Char} (h : isNameStart c = true) : isNameChar c = true := by
  simp only [isNameStart, Bool.or_eq_true] at h
  rcases h with h | h <;> simp [isNameChar, Char.isAlphanum, h]

theorem isNameChar_of_isName {s : List Char} (h : isName s = true) :
    ∀ c ∈ s, isNameChar c = true := by
  cases s with
  | nil => cases h
  | cons d r =>
      simp only [isName, Bool.and_eq_true, List.all_eq_true] at h
      rintro c (_ | ⟨_, member⟩)
      · exact isNameChar_of_isNameStart h.1
      · exact h.2 c member

theorem toNat_of_isAlpha {c : Char} (h : c.isAlpha = true) : 0x41 ≤ c.toNat ∧ c.toNat ≤ 0x7A := by
  rcases Bool.or_eq_true_iff.mp h with upper | lower
  · have bounds : 'A'.val ≤ c.val ∧ c.val ≤ 'Z'.val := of_decide_eq_true upper
    exact ⟨bounds.1, le_trans bounds.2 (by decide)⟩
  · obtain ⟨low, high⟩ := Bool.and_eq_true_iff.mp lower
    have bounds : 'a'.val ≤ c.val ∧ c.val ≤ 'z'.val :=
      ⟨of_decide_eq_true low, of_decide_eq_true high⟩
    exact ⟨le_trans (by decide) bounds.1, bounds.2⟩

theorem toNat_of_isSelectorChar {c : Char} (h : Selector.isSelectorChar c = true) :
    0x2D ≤ c.toNat ∧ c.toNat ≤ 0x7A := by
  simp only [Selector.isSelectorChar, Bool.or_eq_true, beq_iff_eq] at h
  rcases h with ((alphanum | rfl) | rfl) | rfl
  · rcases Bool.or_eq_true_iff.mp alphanum with alpha | digit
    · have := toNat_of_isAlpha alpha
      omega
    · obtain ⟨low, high⟩ := Char.isDigit_iff_toNat.mp digit
      exact ⟨le_trans (by decide) low, le_trans high (by decide)⟩
  · decide
  · decide
  · decide

theorem not_isSelectorChar_of_isBlank {c : Char} (h : isBlank c = true) :
    Selector.isSelectorChar c = false := by
  have outside : c.toNat ≤ 0x20 ∨ 0x85 ≤ c.toNat := by
    simp only [isBlank, Bool.or_eq_true, Bool.and_eq_true, decide_eq_true_eq, beq_iff_eq] at h
    omega
  by_contra selector
  rw [Bool.not_eq_false] at selector
  have inside := toNat_of_isSelectorChar selector
  omega

theorem not_isBlank_of_isSelectorChar {c : Char} (h : Selector.isSelectorChar c = true) :
    isBlank c = false := by
  by_contra blank
  rw [Bool.not_eq_false] at blank
  rw [not_isSelectorChar_of_isBlank blank] at h
  cases h

theorem not_isDelimiter_of_isSelectorChar {c : Char} (h : Selector.isSelectorChar c = true) :
    isDelimiter c = false := by
  by_contra delimiter
  simp only [isDelimiter, Bool.not_eq_false, Bool.or_eq_true, beq_iff_eq] at delimiter
  rcases delimiter with ((rfl | rfl) | rfl) | rfl <;> exact absurd h (by decide)

/-! ## Parts between dots -/

theorem segments_of_no_dot {s : List Char} (noDot : ∀ c ∈ s, c ≠ '.') :
    Selector.segments s = [s] := by
  induction s with
  | nil => rfl
  | cons c r ih =>
      have head : c ≠ '.' := noDot c (by simp)
      have tail := ih fun d hd => noDot d (by simp [hd])
      simp [Selector.segments, head, tail]

theorem segments_append_dot {s : List Char} (noDot : ∀ c ∈ s, c ≠ '.') (t : List Char) :
    Selector.segments (s ++ '.' :: t) = s :: Selector.segments t := by
  induction s with
  | nil => simp [Selector.segments]
  | cons c r ih =>
      have head : c ≠ '.' := noDot c (by simp)
      have tail := ih fun d hd => noDot d (by simp [hd])
      simp [Selector.segments, head, tail]

/-- A text between dots stands in front of the first of them. -/
theorem toList_intercalate_cons (name : String) {names : List String} (nonempty : names ≠ []) :
    (".".intercalate (name :: names)).toList =
      name.toList ++ '.' :: (".".intercalate names).toList := by
  rw [String.intercalate_cons_of_ne_nil nonempty, String.toList_append, String.toList_append,
    List.append_assoc]
  rfl

theorem not_dot_of_isName {s : List Char} (h : isName s = true) : ∀ c ∈ s, c ≠ '.' := by
  rintro c member rfl
  exact absurd (isNameChar_of_isName h _ member) (by decide)

theorem startsAsName_of_isName {s : List Char} (h : isName s = true) :
    Selector.startsAsName s = true := by
  cases s with
  | nil => cases h
  | cons c r =>
      simp only [isName, Bool.and_eq_true] at h
      exact h.1

theorem isName_of_startsAsName {s : List Char} (starts : Selector.startsAsName s = true)
    (chars : ∀ c ∈ s, isNameChar c = true) : isName s = true := by
  cases s with
  | nil => cases starts
  | cons c r =>
      simp only [isName, Bool.and_eq_true, List.all_eq_true]
      exact ⟨starts, fun d hd => chars d (by simp [hd])⟩

/-- A selector is a run of selector characters in which every part begins as a name does. -/
theorem isSelectorChar_of_selectorText {s : List Char} (h : SelectorText s) :
    ∀ c ∈ s, Selector.isSelectorChar c = true := by
  have inName {s : List Char} (name : isName s = true) : ∀ c ∈ s, Selector.isSelectorChar c = true :=
    fun c member => isSelectorChar_of_isNameChar (isNameChar_of_isName name c member)
  induction h with
  | name name => exact inName name
  | dotted name _ ih =>
      intro c member
      rcases List.mem_append.mp member with member | member
      · exact inName name c member
      · rcases List.mem_cons.mp member with rfl | member
        · decide
        · exact ih c member

theorem isWellFormed_of_selectorText {s : List Char} (h : SelectorText s) :
    Selector.isWellFormed s = true := by
  induction h with
  | name name =>
      simp [Selector.isWellFormed, segments_of_no_dot (not_dot_of_isName name),
        startsAsName_of_isName name]
  | dotted name _ ih =>
      simp only [Selector.isWellFormed, segments_append_dot (not_dot_of_isName name),
        List.all_cons, Bool.and_eq_true]
      exact ⟨startsAsName_of_isName name, ih⟩

/-- What stands in front of the first dot is a name, and a selector stands behind it. -/
theorem selectorText_of_isWellFormed {s : List Char}
    (chars : ∀ c ∈ s, Selector.isSelectorChar c = true) (starts : Selector.isWellFormed s = true) :
    SelectorText s := by
  induction size : s.length using Nat.strong_induction_on generalizing s with
  | _ n ih =>
    have noDot : ∀ c ∈ s.takeWhile (· != '.'), c ≠ '.' := fun c member => by
      simpa using List.mem_takeWhile_imp member
    have names : ∀ c ∈ s.takeWhile (· != '.'), isNameChar c = true := fun c member =>
      isNameChar_of_isSelectorChar (chars c ((List.takeWhile_prefix _).subset member))
        (noDot c member)
    have split := List.takeWhile_append_dropWhile (p := (· != '.')) (l := s)
    have stops := stopsAt_dropWhile (· != '.') s
    cases rest : s.dropWhile (· != '.') with
    | nil =>
        rw [rest, List.append_nil] at split
        rw [split] at noDot names
        have : Selector.startsAsName s = true := by
          simpa [Selector.isWellFormed, segments_of_no_dot noDot] using starts
        exact .name (isName_of_startsAsName this names)
    | cons c t =>
        rw [rest] at split stops
        obtain rfl : c = '.' := by simpa using stops
        rw [← split] at starts
        simp only [Selector.isWellFormed, segments_append_dot noDot, List.all_cons,
          Bool.and_eq_true] at starts
        rw [← split] at chars size ⊢
        have shorter : t.length < n := by
          simp only [List.length_append, List.length_cons] at size
          omega
        have tail := ih t.length shorter (fun c member => chars c (by simp [member])) starts.2 rfl
        exact .dotted (isName_of_startsAsName starts.1 names) tail

theorem selectorText_iff {s : List Char} :
    SelectorText s ↔
      (∀ c ∈ s, Selector.isSelectorChar c = true) ∧ Selector.isWellFormed s = true :=
  ⟨fun h => ⟨isSelectorChar_of_selectorText h, isWellFormed_of_selectorText h⟩,
    fun h => selectorText_of_isWellFormed h.1 h.2⟩

theorem selectorText_ne_nil {s : List Char} (h : SelectorText s) : s ≠ [] := by
  rintro rfl
  cases isWellFormed_of_selectorText h

theorem selectorText_starts {s : List Char} (h : SelectorText s) :
    ∃ c r, s = c :: r ∧ Selector.isSelectorChar c = true := by
  obtain ⟨c, r, rfl⟩ := List.exists_cons_of_ne_nil (selectorText_ne_nil h)
  exact ⟨c, r, rfl, isSelectorChar_of_selectorText h c (by simp)⟩

/-! ## The reader of selectors -/

theorem outcome_selector_append {s rest : List Char} (h : SelectorText s)
    (stops : StopsAt (fun c => !Selector.isSelectorChar c) rest) :
    outcome (selector (s ++ rest)) = .ok (String.ofList s, rest) := by
  obtain ⟨chars, starts⟩ := selectorText_iff.mp h
  rw [outcome_selector, takeWhile_append_of_stop chars stops, dropWhile_append_of_stop chars stops,
    if_neg (selectorText_ne_nil h), if_pos starts]

theorem selector_sound {s rest : List Char} {field : String}
    (h : outcome (selector s) = .ok (field, rest)) :
    ∃ run, s = run ++ rest ∧ SelectorText run ∧ field = String.ofList run := by
  rw [outcome_selector] at h
  split at h
  · cases h
  · split at h
    · rename_i starts
      obtain ⟨rfl, rfl⟩ := Prod.mk.inj (Except.ok.inj h)
      exact ⟨_, List.takeWhile_append_dropWhile.symm,
        selectorText_iff.mpr ⟨fun _ => List.mem_takeWhile_imp, starts⟩, rfl⟩
    · cases h

end FilterQuery.Expression
