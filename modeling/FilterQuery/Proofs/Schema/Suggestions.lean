/-
# FilterQuery.Proofs.Schema.Suggestions -- whether a name that is suggested can be used

What a hint suggests is a candidate, and candidates are the selectors and the aliases of a schema.
In the schema of a definition each of them leads to a field (`Coherent.exists_field_of_candidate`).
The token for which a candidate is suggested leads to none, so it is never suggested itself
(`Coherent.ne_of_suggested`).

The field of a selector can be searched.  That of an alias need not be: nothing is asked of the
target of an alias but that it is a leaf, and all aliases are candidates.  So a suggestion can be
used unless it is an alias for a leaf that is closed to searches (`suggestion_usable_iff`), and
there are suggestions of that kind (`suggested_alias_refused`).
-/
import FilterQuery.Proofs.Schema.Naming

namespace FilterQuery

/-- No other hint is worded like the one for a similar name. -/
theorem Hint.message_eq_iff {hint : Hint} {candidate : String} :
    hint.message = "did you mean '" ++ candidate ++ "'?" ↔ hint = .similar candidate := by
  constructor
  · intro same
    have front : hint.message.toList.head? = some 'd' := by
      rw [same, String.append_assoc, String.toList_append]
      rfl
    cases hint with
    | notSearchable => exact absurd front (by decide)
    | nestedObject => exact absurd front (by decide)
    | similar other =>
        have framed := (String.append_left_inj _).mp same
        rw [(String.append_right_inj _).mp framed]
  · rintro rfl
    rfl

namespace Schema

variable {s : Schema} {d : SchemaDefinition} {token name candidate : String}

/-! ## Candidates -/

/-- A candidate is suggested only for a token that leads to no field. -/
theorem of_suggested
    (refused : s.resolve token = .error (.unknownField name (some (.similar candidate)))) :
    s.field? (s.pathOf token) = none ∧ candidate ∈ s.candidates := by
  rcases resolve_cases s token with ⟨f, _, _, result⟩ | ⟨f, _, _, result⟩ | ⟨_, _, result⟩ |
    ⟨missing, _, result⟩
  · rw [result] at refused
    cases refused
  · rw [result] at refused
    cases refused
  · rw [result] at refused
    cases refused
  · rw [result] at refused
    refine ⟨missing, ?_⟩
    rcases mostSimilar?_cases s token with ⟨other, hint, member, _⟩ | ⟨hint, _⟩
    · rw [hint] at refused
      cases refused
      exact member
    · rw [hint] at refused
      cases refused

theorem mem_candidates_iff :
    candidate ∈ s.candidates ↔
      candidate ∈ s.selectors ∨ ∃ target, s.aliases.lookup candidate = some target := by
  have listed : candidate ∈ s.aliases.map (·.1) ↔
      ∃ target, s.aliases.lookup candidate = some target := by
    rw [← Option.isSome_iff_exists, List.lookup_isSome_iff, List.mem_map]
    simp only [beq_iff_eq, @eq_comm _ candidate]
  rw [candidates, List.mem_append, listed]

namespace Coherent

/-- Selectors and aliases lead to fields. -/
theorem exists_field_of_candidate (coherent : s.Coherent) (member : candidate ∈ s.candidates) :
    ∃ f, s.field? (s.pathOf candidate) = some f := by
  rcases mem_candidates_iff.mp member with selector | ⟨target, found⟩
  · obtain ⟨-, f, resolved⟩ := coherent.mem_selectors_iff_resolve.mp selector
    exact ⟨f, (resolve_eq_ok_iff.mp resolved).1⟩
  · have leaf := (coherent.of_lookup found).2.2
    rw [pathOf, found, Option.getD_some]
    exact Option.isSome_iff_exists.mp (isSome_field?_iff.mpr leaf)

theorem ne_of_suggested (coherent : s.Coherent)
    (refused : s.resolve token = .error (.unknownField name (some (.similar candidate)))) :
    candidate ≠ token := by
  obtain ⟨missing, member⟩ := of_suggested refused
  obtain ⟨f, found⟩ := coherent.exists_field_of_candidate member
  rintro rfl
  rw [missing] at found
  cases found

/-- A candidate that is not found is refused for nothing but its field. -/
theorem resolve_candidate_cases (coherent : s.Coherent) (member : candidate ∈ s.candidates) :
    (∃ f, s.resolve candidate = .ok f) ∨
      s.resolve candidate = .error (.unknownField candidate (some .notSearchable)) := by
  obtain ⟨f, found⟩ := coherent.exists_field_of_candidate member
  rcases resolve_cases s candidate with ⟨g, _, _, result⟩ | ⟨_, _, _, result⟩ |
    ⟨missing, _, _⟩ | ⟨missing, _, _⟩
  · exact .inl ⟨g, result⟩
  · exact .inr result
  · rw [missing] at found
    cases found
  · rw [missing] at found
    cases found

end Coherent

/-! ## Schemas out of definitions -/

/-- An alias for a leaf is found exactly if the leaf can be searched. -/
theorem resolve_alias_iff (made : ofDefinition d = .ok s) {b : Branch} (leaf : b ∈ d.leaves)
    (found : d.aliases.lookup token = some b.path) :
    (∃ f, s.resolve token = .ok f) ↔ b.tip.searchable = true := by
  obtain ⟨f, field⟩ := Branch.exists_field?_of_leaf leaf
  have leads : d.LeadsTo token f :=
    ⟨b, leaf, field, (Branch.path_of_field? field).1, .inr found⟩
  rw [← Branch.searchable_of_field? field]
  constructor
  · rintro ⟨g, resolved⟩
    obtain ⟨leads', searchable⟩ := (resolve_eq_ok_iff_leadsTo made).mp resolved
    have coherent := coherent_of_ofDefinition made
    have represents := represents_of_ofDefinition made
    -- a token leads to one field at most
    have same := ((leadsTo_iff coherent represents).mp leads).symm.trans
      ((leadsTo_iff coherent represents).mp leads')
    rw [Option.some.inj same]
    exact searchable
  · intro searchable
    exact ⟨f, (resolve_eq_ok_iff_leadsTo made).mpr ⟨leads, searchable⟩⟩

theorem resolve_candidate_iff (made : ofDefinition d = .ok s) (member : candidate ∈ s.candidates) :
    (∃ f, s.resolve candidate = .ok f) ↔
      ∀ b ∈ d.leaves, d.aliases.lookup candidate = some b.path → b.tip.searchable = true := by
  have coherent := coherent_of_ofDefinition made
  have represents := represents_of_ofDefinition made
  constructor
  · intro resolved b leaf found
    exact (resolve_alias_iff made leaf found).mp resolved
  · intro searchable
    rcases mem_candidates_iff.mp member with selector | ⟨target, found⟩
    · exact (coherent.mem_selectors_iff_resolve.mp selector).2
    · obtain ⟨f, own, rfl⟩ := List.mem_map.mp (coherent.of_lookup found).2.2
      obtain ⟨b, leaf, field⟩ := represents.mem_fields_iff.mp own
      rw [represents.aliases, (Branch.path_of_field? field).1] at found
      exact (resolve_alias_iff made leaf found).mpr (searchable b leaf found)

/-- What a hint suggests is another name than the one that was not found.  It is found itself,
unless it is an alias for a leaf that is closed to searches; then it is refused for that. -/
theorem suggestion_usable_iff (made : ofDefinition d = .ok s) {hint : Hint}
    (refused : s.resolve token = .error (.unknownField name (some hint)))
    (suggests : hint.message = "did you mean '" ++ candidate ++ "'?") :
    candidate ≠ token ∧
      ((∃ f, s.resolve candidate = .ok f) ↔
        ∀ b ∈ d.leaves, d.aliases.lookup candidate = some b.path → b.tip.searchable = true) ∧
      ((∃ f, s.resolve candidate = .ok f) ∨
        s.resolve candidate = .error (.unknownField candidate (some .notSearchable))) := by
  have coherent := coherent_of_ofDefinition made
  obtain rfl := Hint.message_eq_iff.mp suggests
  have member := (of_suggested refused).2
  refine ⟨coherent.ne_of_suggested refused, ?_, ?_⟩
  · exact resolve_candidate_iff made member
  · exact coherent.resolve_candidate_cases member

/-- An alias for a leaf that can be searched is suggested, and found. -/
theorem suggestion_usable_iff_tenant :
    let d : SchemaDefinition := ⟨[("tenant", "name")], [.string "name"]⟩
    let s : Schema := ⟨[⟨"name", "name", .string, true, true⟩], [], [("tenant", "name")]⟩
    ofDefinition d = .ok s ∧
      s.resolve "tenat" = .error (.unknownField "tenat" (some (.similar "tenant"))) ∧
      (Hint.similar "tenant").message = "did you mean '" ++ "tenant" ++ "'?" ∧
      "tenant" ≠ "tenat" ∧ ∃ f, s.resolve "tenant" = .ok f := by
  intro d s
  have made : ofDefinition d = .ok s := by decide +kernel
  have refused : s.resolve "tenat" = .error (.unknownField "tenat" (some (.similar "tenant"))) := by
    decide +kernel
  obtain ⟨other, usable, -⟩ := suggestion_usable_iff made refused rfl
  refine ⟨made, refused, rfl, other, usable.mpr ?_⟩
  have leaves : d.leaves = [⟨[], .string "name"⟩] := rfl
  rw [leaves]
  rintro b (_ | ⟨_, ⟨⟩⟩) _
  rfl

/-- Someone who asks for `ownr` is told to ask for `owner`, and refused when he does. -/
theorem suggested_alias_refused :
    let owner : Definition := (Definition.string "ownerId").notSearchable
    let d : SchemaDefinition := ⟨[("owner", "ownerId")], [owner]⟩
    let s : Schema := ⟨[⟨"ownerId", "ownerId", .string, true, false⟩], [], [("owner", "ownerId")]⟩
    ofDefinition d = .ok s ∧
      s.resolve "ownr" = .error (.unknownField "ownr" (some (.similar "owner"))) ∧
      (Hint.similar "owner").message = "did you mean 'owner'?" ∧
      s.resolve "owner" = .error (.unknownField "owner" (some .notSearchable)) ∧
      ¬ ∃ f, s.resolve "owner" = .ok f := by
  intro owner d s
  have refused : s.resolve "owner" = .error (.unknownField "owner" (some .notSearchable)) := by
    decide +kernel
  refine ⟨by decide +kernel, by decide +kernel, by decide, refused, ?_⟩
  rintro ⟨f, resolved⟩
  rw [refused] at resolved
  cases resolved

end Schema

end FilterQuery
