/-
# FilterQuery.Proofs.Value.Wildcard -- a pattern finds what its value stands for

The value of a filter and the pattern that the index gets for it stand for the same
texts (`matches_normalize_iff`), whatever character is the marker.  Both languages
are read off from the front: one `_iff` for each way in which a value or a pattern
can begin, and one case of the induction for each of them.

A value without a marker stands for itself alone (`standsFor_iff_eq`), and a pattern
never ends in the middle of an escape (`dangles_normalize`).

Both relations are decidable, so that languages can be looked at as well as reasoned about.
-/
import FilterQuery.Value.Raw
import Mathlib.Data.List.Infix

namespace FilterQuery.Wildcard

variable {marker c : Char} {value pattern text : List Char}

/-! ## Values, from the front -/

theorem standsFor_nil_iff : StandsFor marker [] text ↔ text = [] := by
  constructor
  · intro stands
    cases stands
    rfl
  · rintro rfl
    exact .nil

theorem standsFor_marker_iff :
    StandsFor marker (marker :: value) text ↔
      ∃ rest, rest <:+ text ∧ StandsFor marker value rest := by
  constructor
  · intro stands
    cases stands with
    | any skipped stands => exact ⟨_, List.suffix_append _ _, stands⟩
    | itself different stands => exact absurd rfl different
  · rintro ⟨rest, ⟨skipped, rfl⟩, stands⟩
    exact .any skipped stands

theorem standsFor_cons_iff (different : c ≠ marker) :
    StandsFor marker (c :: value) text ↔
      ∃ rest, text = c :: rest ∧ StandsFor marker value rest := by
  constructor
  · intro stands
    cases stands with
    | any skipped stands => exact absurd rfl different
    | itself _ stands => exact ⟨_, rfl, stands⟩
  · rintro ⟨rest, rfl, stands⟩
    exact .itself different stands

/-- Without a marker there is nothing to choose. -/
theorem standsFor_iff_eq (absent : marker ∉ value) :
    StandsFor marker value text ↔ text = value := by
  induction value generalizing text with
  | nil => exact standsFor_nil_iff
  | cons c value ih =>
      have different : c ≠ marker := fun same => absent (same ▸ List.mem_cons_self)
      have absentBehind : marker ∉ value := fun member => absent (List.mem_cons_of_mem c member)
      rw [standsFor_cons_iff different]
      constructor
      · rintro ⟨rest, rfl, stands⟩
        rw [(ih absentBehind).mp stands]
      · rintro rfl
        exact ⟨value, rfl, (ih absentBehind).mpr rfl⟩

/-! ## Patterns, from the front -/

theorem matches_nil_iff : Matches [] text ↔ text = [] := by
  constructor
  · intro found
    cases found
    rfl
  · rintro rfl
    exact .nil

theorem matches_any_iff :
    Matches ('*' :: pattern) text ↔ ∃ rest, rest <:+ text ∧ Matches pattern rest := by
  constructor
  · intro found
    cases found with
    | any skipped found => exact ⟨_, List.suffix_append _ _, found⟩
    | itself plain found => cases plain
  · rintro ⟨rest, ⟨skipped, rfl⟩, found⟩
    exact .any skipped found

theorem matches_one_iff :
    Matches ('?' :: pattern) text ↔ ∃ c rest, text = c :: rest ∧ Matches pattern rest := by
  constructor
  · intro found
    cases found with
    | one c found => exact ⟨c, _, rfl, found⟩
    | itself plain found => cases plain
  · rintro ⟨c, rest, rfl, found⟩
    exact .one c found

theorem not_matches_backslash : ¬ Matches ['\\'] text := by
  intro found
  cases found with
  | itself plain found => cases plain

theorem matches_escaped_iff :
    Matches ('\\' :: c :: pattern) text ↔ ∃ rest, text = c :: rest ∧ Matches pattern rest := by
  constructor
  · intro found
    cases found with
    | escaped c found => exact ⟨_, rfl, found⟩
    | itself plain found => cases plain
  · rintro ⟨rest, rfl, found⟩
    exact .escaped c found

theorem matches_cons_iff (plain : isSpecial c = false) :
    Matches (c :: pattern) text ↔ ∃ rest, text = c :: rest ∧ Matches pattern rest := by
  constructor
  · intro found
    cases found with
    | itself _ found => exact ⟨_, rfl, found⟩
    | _ => cases plain
  · rintro ⟨rest, rfl, found⟩
    exact .itself plain found

/-! ## Deciding

A marker or a `*` is decided by trying all ends of the text. -/

instance decidableStandsFor (marker : Char) :
    (value text : List Char) → Decidable (StandsFor marker value text)
  | [], _ => decidable_of_iff _ standsFor_nil_iff.symm
  | c :: value, text =>
      have : ∀ rest, Decidable (StandsFor marker value rest) := decidableStandsFor marker value
      if same : c = marker then
        decidable_of_iff (∃ rest ∈ text.tails, StandsFor marker value rest) (by
          simp only [same, standsFor_marker_iff, List.mem_tails])
      else match text with
        | [] => .isFalse (by simp [standsFor_cons_iff same])
        | d :: rest => decidable_of_iff (d = c ∧ StandsFor marker value rest) (by
            simp [standsFor_cons_iff same])

instance decidableMatches : (pattern text : List Char) → Decidable (Matches pattern text)
  | [], _ => decidable_of_iff _ matches_nil_iff.symm
  | c :: pattern, text =>
      have : ∀ rest, Decidable (Matches pattern rest) := decidableMatches pattern
      if many : c = '*' then
        decidable_of_iff (∃ rest ∈ text.tails, Matches pattern rest) (by
          simp only [many, matches_any_iff, List.mem_tails])
      else if one : c = '?' then match text with
        | [] => .isFalse (by simp [one, matches_one_iff])
        | _ :: rest => decidable_of_iff (Matches pattern rest) (by simp [one, matches_one_iff])
      else if escape : c = '\\' then match pattern, text with
        | [], _ => .isFalse (by simp [escape, not_matches_backslash])
        | _ :: _, [] => .isFalse (by simp [escape, matches_escaped_iff])
        | literal :: pattern, d :: rest =>
            have := decidableMatches pattern rest
            decidable_of_iff (d = literal ∧ Matches pattern rest) (by
              simp [escape, matches_escaped_iff])
      else
        have plain : isSpecial c = false := by simp [isSpecial, many, one, escape]
        match text with
        | [] => .isFalse (by simp [matches_cons_iff plain])
        | d :: rest => decidable_of_iff (d = c ∧ Matches pattern rest) (by
            simp [matches_cons_iff plain])

/-! ## Normal forms -/

/-- The pattern of a value matches what the value stands for. -/
theorem matches_normalize_iff :
    Matches (normalize marker value) text ↔ StandsFor marker value text := by
  induction value generalizing text with
  | nil => rw [normalize, matches_nil_iff, standsFor_nil_iff]
  | cons c value ih =>
      rw [normalize]
      by_cases same : c = marker
      · rw [if_pos (beq_iff_eq.mpr same), same, matches_any_iff, standsFor_marker_iff]
        simp only [ih]
      · rw [if_neg (by simpa using same), standsFor_cons_iff same]
        by_cases special : isSpecial c = true
        · rw [if_pos special, matches_escaped_iff]
          simp only [ih]
        · rw [if_neg special, matches_cons_iff (by simpa using special)]
          simp only [ih]

/-- With `%` as the marker the star before it is meant as it stands. -/
example : Matches (normalize '%' ['5', '*', '%']) ['5', '*', '0'] ∧
    StandsFor '%' ['5', '*', '%'] ['5', '*', '0'] ∧
    ¬ Matches (normalize '%' ['5', '*', '%']) ['5', '0'] ∧
    ¬ StandsFor '%' ['5', '*', '%'] ['5', '0'] := by
  decide

theorem dangles_cons (plain : c ≠ '\\') (pattern : List Char) :
    dangles (c :: pattern) = dangles pattern := by
  rw [dangles]
  · exact fun same => absurd same plain
  · exact fun _ _ same => absurd same plain

theorem dangles_normalize (marker : Char) (value : List Char) :
    dangles (normalize marker value) = false := by
  induction value with
  | nil => rfl
  | cons c value ih =>
      rw [normalize]
      split
      · exact ih
      · split
        · exact ih
        · rename_i plain
          rw [dangles_cons (by rintro rfl; exact plain rfl), ih]

end FilterQuery.Wildcard

namespace FilterQuery.Value

open FilterQuery.Wildcard

variable {settings : Settings} {field : Field} {op : Comparator}

theorem ofRaw_of_equality (string : field.kind = .string) (equality : op.isEquality = true)
    (raw : String) :
    ofRaw settings field op raw = .ok (ofString settings.wildcard field.wildcards raw) := by
  have unordered : op.isOrdering = false := by simp [Comparator.isOrdering, equality]
  simp [ofRaw, string, unordered]

/-- A field with texts that allows wildcards takes every raw text.  Without the marker in it that is
a text, the only one that the raw text stands for.  With the marker it is a pattern that matches
exactly the texts that the raw text stands for. -/
theorem ofRaw_standsFor (string : field.kind = .string) (wildcards : field.wildcards = true)
    (equality : op.isEquality = true) (raw : String) :
    (settings.wildcard ∉ raw.toList ∧ ofRaw settings field op raw = .ok (.text raw) ∧
      ∀ text : String, StandsFor settings.wildcard raw.toList text.toList ↔ text = raw) ∨
    (settings.wildcard ∈ raw.toList ∧
      ∃ pattern, ofRaw settings field op raw = .ok (.pattern pattern) ∧
      (∀ text : String, Matches pattern.toList text.toList ↔
        StandsFor settings.wildcard raw.toList text.toList) ∧
      dangles pattern.toList = false) := by
  rw [ofRaw_of_equality string equality, wildcards]
  by_cases marked : settings.wildcard ∈ raw.toList
  · have pattern : ofString settings.wildcard true raw =
        .pattern (String.ofList (normalize settings.wildcard raw.toList)) := by
      simp [ofString, marked]
    refine .inr ⟨marked, _, congrArg _ pattern, fun text => ?_, ?_⟩
    · rw [String.toList_ofList, matches_normalize_iff]
    · rw [String.toList_ofList, dangles_normalize]
  · have plain : ofString settings.wildcard true raw = .text raw := by
      simp [ofString, marked]
    refine .inl ⟨marked, congrArg _ plain, fun text => ?_⟩
    rw [standsFor_iff_eq marked, String.toList_inj]

/-- A backslash as the marker, in front of both characters that patterns use for wildcards. -/
theorem ofRaw_standsFor_backslash :
    let settings : Settings := ⟨32, '\\', []⟩
    let field : Field := ⟨"name", "doc.name", .string, true, true⟩
    field.kind = .string ∧ field.wildcards = true ∧ Comparator.notEqual.isEquality = true ∧
      ofRaw settings field .notEqual "a\\*?" = .ok (.pattern "a*\\*\\?") ∧
      (∀ text : String, Matches "a*\\*\\?".toList text.toList ↔
        StandsFor '\\' "a\\*?".toList text.toList) ∧
      dangles "a*\\*\\?".toList = false := by
  intro settings field
  have made : ofRaw settings field .notEqual "a\\*?" = .ok (.pattern "a*\\*\\?") := by
    rfl
  refine ⟨rfl, rfl, rfl, made, ?_⟩
  rcases @ofRaw_standsFor settings field .notEqual rfl rfl rfl "a\\*?" with
    ⟨absent, -⟩ | ⟨-, pattern, same, language⟩
  · exact absurd (by decide) absent
  · obtain rfl : pattern = "a*\\*\\?" := Value.pattern.inj (Except.ok.inj (same.symm.trans made))
    exact language

end FilterQuery.Value
