/-
# FilterQuery.Proofs.Text.Trim -- where blanks and runs of characters end

A scan for the characters of a class stops at the first character outside of it
(`takeWhile_append_of_stop`, `dropWhile_append_of_stop`), and what stops it is all
that later steps need to know of the text behind (`StopsAt`).

Blanks at either end make no difference to a trimmed text (`trim_dropBlank`,
`trim_append_blanks`), and only blanks trim to nothing (`trim_eq_nil_iff`): no other character is
lost (`mem_trim`).
-/
import FilterQuery.Expression.Grammar
import Mathlib.Data.List.TakeWhile

namespace FilterQuery.Text

open FilterQuery.Expression (Blanks)

/-- Nothing is left, or a character of the class is next. -/
def StopsAt (stop : Char → Bool) (rest : List Char) : Prop :=
  ∀ c ∈ rest.head?, stop c = true

@[simp] theorem stopsAt_nil (stop : Char → Bool) : StopsAt stop [] := by
  intro c member
  cases member

@[simp] theorem stopsAt_cons {stop : Char → Bool} {c : Char} {rest : List Char} :
    StopsAt stop (c :: rest) ↔ stop c = true := by
  simp [StopsAt]

theorem StopsAt.imp {p q : Char → Bool} {rest : List Char} (stops : StopsAt p rest)
    (h : ∀ c, p c = true → q c = true) : StopsAt q rest :=
  fun c member => h c (stops c member)

theorem stopsAt_append {stop : Char → Bool} {s t : List Char} (nonempty : s ≠ []) :
    StopsAt stop (s ++ t) ↔ StopsAt stop s := by
  cases s with
  | nil => exact absurd rfl nonempty
  | cons c r => simp

theorem stopsAt_dropWhile (p : Char → Bool) (s : List Char) :
    StopsAt (fun c => !p c) (s.dropWhile p) := by
  intro c member
  have := List.head?_dropWhile_not p s
  rw [Option.mem_def.mp member] at this
  simpa using this

/-! ## Runs -/

theorem takeWhile_append_of_stop {p : Char → Bool} {s rest : List Char}
    (inside : ∀ c ∈ s, p c = true) (stops : StopsAt (fun c => !p c) rest) :
    (s ++ rest).takeWhile p = s := by
  rw [List.takeWhile_append_of_pos inside]
  cases rest with
  | nil => simp
  | cons c rest =>
      have : p c = false := by simpa using stops
      simp [this]

theorem dropWhile_append_of_stop {p : Char → Bool} {s rest : List Char}
    (inside : ∀ c ∈ s, p c = true) (stops : StopsAt (fun c => !p c) rest) :
    (s ++ rest).dropWhile p = rest := by
  rw [List.dropWhile_append_of_pos inside]
  cases rest with
  | nil => rfl
  | cons c rest =>
      have : p c = false := by simpa using stops
      simp [this]

/-! ## Blanks -/

theorem blanks_append {s t : List Char} : Blanks (s ++ t) ↔ Blanks s ∧ Blanks t := by
  simp only [Blanks, List.mem_append]
  constructor
  · intro h
    exact ⟨fun c hc => h c (.inl hc), fun c hc => h c (.inr hc)⟩
  · rintro ⟨hs, ht⟩ c (hc | hc)
    · exact hs c hc
    · exact ht c hc

theorem exists_blanks_append_dropBlank (s : List Char) :
    ∃ before, Blanks before ∧ s = before ++ dropBlank s :=
  ⟨s.takeWhile isBlank, fun _ => List.mem_takeWhile_imp, List.takeWhile_append_dropWhile.symm⟩

theorem dropBlank_blanks_append {before : List Char} (blank : Blanks before) (s : List Char) :
    dropBlank (before ++ s) = dropBlank s :=
  List.dropWhile_append_of_pos blank

theorem dropBlank_of_stopsAt {rest : List Char} (stops : StopsAt (fun c => !isBlank c) rest) :
    dropBlank rest = rest := by
  simpa [dropBlank] using dropWhile_append_of_stop (s := []) (by simp) stops

theorem dropBlank_eq_nil_iff {s : List Char} : dropBlank s = [] ↔ Blanks s := by
  simp [dropBlank, Blanks, List.dropWhile_eq_nil_iff]

theorem dropBlank_append {s : List Char} (visible : dropBlank s ≠ []) (t : List Char) :
    dropBlank (s ++ t) = dropBlank s ++ t := by
  unfold dropBlank at visible ⊢
  rw [List.dropWhile_append, if_neg (by simpa using visible)]

theorem dropBlank_dropBlank (s : List Char) : dropBlank (dropBlank s) = dropBlank s :=
  dropBlank_of_stopsAt (stopsAt_dropWhile isBlank s)

theorem trim_dropBlank (s : List Char) : trim (dropBlank s) = trim s := by
  unfold trim
  rw [dropBlank_dropBlank]

theorem trim_eq_nil_iff {s : List Char} : trim s = [] ↔ Blanks s := by
  unfold trim
  rw [List.reverse_eq_nil_iff, dropBlank_eq_nil_iff]
  constructor
  · intro h
    obtain ⟨before, blank, split⟩ := exists_blanks_append_dropBlank s
    rw [split, blanks_append]
    exact ⟨blank, fun c hc => h c (List.mem_reverse.mpr hc)⟩
  · intro h
    rw [dropBlank_eq_nil_iff.mpr h]
    intro c member
    cases member

theorem mem_dropBlank {s : List Char} {c : Char} (member : c ∈ s) (visible : isBlank c = false) :
    c ∈ dropBlank s := by
  obtain ⟨before, blank, split⟩ := exists_blanks_append_dropBlank s
  rw [split, List.mem_append] at member
  rcases member with among | behind
  · rw [blank c among] at visible
    cases visible
  · exact behind

theorem mem_trim {s : List Char} {c : Char} (member : c ∈ s) (visible : isBlank c = false) :
    c ∈ trim s := by
  unfold trim
  rw [List.mem_reverse]
  apply mem_dropBlank _ visible
  rw [List.mem_reverse]
  exact mem_dropBlank member visible

theorem dropBlank_ne_nil_of_trim {s : List Char} (visible : trim s ≠ []) : dropBlank s ≠ [] :=
  fun h => visible (trim_eq_nil_iff.mpr (dropBlank_eq_nil_iff.mp h))

theorem trim_append_blanks (s : List Char) {after : List Char} (blank : Blanks after) :
    trim (s ++ after) = trim s := by
  by_cases visible : dropBlank s = []
  · have blankS := dropBlank_eq_nil_iff.mp visible
    rw [trim_eq_nil_iff.mpr blankS, trim_eq_nil_iff.mpr (blanks_append.mpr ⟨blankS, blank⟩)]
  · unfold trim
    rw [dropBlank_append visible, List.reverse_append, dropBlank_blanks_append]
    exact fun c hc => blank c (List.mem_reverse.mp hc)

end FilterQuery.Text
