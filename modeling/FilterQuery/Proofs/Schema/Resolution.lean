/-
# FilterQuery.Proofs.Schema.Resolution -- what comes of a token

A token is replaced if it is an alias, once, and then looked up among the fields and after
that among the objects.  `resolve_cases` says all that can come of it, for any schema.

In a schema that a definition gives, fields, objects and aliases do not get in each other's
way (`Coherent`).  Then a token leads to the field that is found (`leadsTo_iff`), and it makes
no difference that aliases are looked up before paths (`pathOf_eq_iff`).

A hint about a similar name is one of the candidates, and there is none only if no candidate
is similar enough (`mostSimilar?_cases`).
-/
import FilterQuery.Proofs.Schema.Compilation

namespace FilterQuery.Schema

variable {s : Schema} {d : SchemaDefinition} {token path : String} {f : Field}

/-! ## Any schema -/

theorem mem_of_field? (found : s.field? path = some f) : f ∈ s.fields ∧ f.path = path :=
  ⟨List.mem_of_find?_eq_some found, by simpa using List.find?_some found⟩

theorem mem_of_lookup {entries : List (String × String)} {target : String}
    (found : entries.lookup token = some target) : (token, target) ∈ entries := by
  obtain ⟨before, behind, rfl, _⟩ := List.lookup_eq_some_iff.mp found
  exact List.mem_append_right _ List.mem_cons_self

/-- The lookup finds a field that can be searched or one that cannot, or else an object, or
neither. -/
theorem resolve_cases (s : Schema) (token : String) :
    (∃ f, s.field? (s.pathOf token) = some f ∧ f.searchable = true ∧ s.resolve token = .ok f) ∨
    (∃ f, s.field? (s.pathOf token) = some f ∧ f.searchable = false ∧
      s.resolve token = .error (.unknownField token (some .notSearchable))) ∨
    (s.field? (s.pathOf token) = none ∧ s.pathOf token ∈ s.objects ∧
      s.resolve token = .error (.unknownField token (some .nestedObject))) ∨
    (s.field? (s.pathOf token) = none ∧ s.pathOf token ∉ s.objects ∧
      s.resolve token = .error (.unknownField token ((s.mostSimilar? token).map .similar))) := by
  cases found : s.field? (s.pathOf token) with
  | some f => cases searchable : f.searchable <;> simp [resolve, found, searchable]
  | none => by_cases object : s.pathOf token ∈ s.objects <;> simp [resolve, found, object]

theorem resolve_eq_ok_iff :
    s.resolve token = .ok f ↔ s.field? (s.pathOf token) = some f ∧ f.searchable = true := by
  rcases resolve_cases s token with ⟨g, found, searchable, result⟩ | ⟨g, found, closed, result⟩ |
    ⟨missing, _, result⟩ | ⟨missing, _, result⟩
  · rw [result, found, Except.ok.injEq, Option.some.injEq]
    exact (and_iff_left_of_imp fun same => same ▸ searchable).symm
  · rw [result, found]
    constructor
    · rintro ⟨⟩
    · rintro ⟨⟨⟩, searchable⟩
      rw [closed] at searchable
      cases searchable
  · simp [result, missing]
  · simp [result, missing]

/-! ## Similar names -/

/-- The choice of one item out of a list, by a step that takes the next item or stays with the one
before. -/
theorem foldl_choice {α : Type} {choose : Option α → α → Option α}
    (chooses : ∀ best a, choose best a = some a ∨ (∃ b, best = some b) ∧ choose best a = best)
    (items : List α) (best : Option α) :
    (items.foldl choose best = none ↔ best = none ∧ items = []) ∧
      ∀ a, items.foldl choose best = some a → best = some a ∨ a ∈ items := by
  induction items generalizing best with
  | nil => simp
  | cons b items ih =>
      obtain ⟨absent, chosen⟩ := ih (choose best b)
      rw [List.foldl_cons]
      rcases chooses best b with next | ⟨⟨c, rfl⟩, same⟩
      · rw [next] at absent chosen ⊢
        refine ⟨by simp [absent], fun a found => ?_⟩
        rcases chosen a found with first | member
        · cases first
          exact .inr List.mem_cons_self
        · exact .inr (List.mem_cons_of_mem _ member)
      · rw [same] at absent chosen ⊢
        refine ⟨by simp [absent], fun a found => ?_⟩
        rcases chosen a found with first | member
        · exact .inl first
        · exact .inr (List.mem_cons_of_mem _ member)

/-- The candidates with their similarities, as far as they are similar. -/
def similarTo (s : Schema) (token : String) : List (String × Float) :=
  (s.candidates.map fun candidate =>
    (candidate, Text.jaroWinkler token.toList candidate.toList)).filter (threshold ≤ ·.2)

theorem mem_similarTo_iff {candidate : String} :
    (∃ scored ∈ s.similarTo token, scored.1 = candidate) ↔
      candidate ∈ s.candidates ∧ ResemblesToken token candidate := by
  constructor
  · rintro ⟨scored, member, rfl⟩
    obtain ⟨member, enough⟩ := List.mem_filter.mp member
    obtain ⟨candidate, inside, rfl⟩ := List.mem_map.mp member
    exact ⟨inside, show threshold ≤ _ from of_decide_eq_true enough⟩
  · rintro ⟨member, resembles⟩
    refine ⟨(candidate, Text.jaroWinkler token.toList candidate.toList), ?_, rfl⟩
    exact List.mem_filter.mpr ⟨List.mem_map_of_mem member, decide_eq_true resembles⟩

/-- The next candidate, unless the best of those before is more similar. -/
def better : Option (String × Float) → String × Float → Option (String × Float)
  | none, scored => some scored
  | some best, scored => if best.2 ≤ scored.2 then some scored else some best

theorem better_cases (best : Option (String × Float)) (scored : String × Float) :
    better best scored = some scored ∨ (∃ b, best = some b) ∧ better best scored = best := by
  cases best with
  | none => exact .inl rfl
  | some b =>
      by_cases more : b.2 ≤ scored.2
      · exact .inl (if_pos more)
      · exact .inr ⟨⟨b, rfl⟩, if_neg more⟩

theorem mostSimilar?_eq (s : Schema) (token : String) :
    s.mostSimilar? token = ((s.similarTo token).foldl better none).map (·.1) := by
  refine congrArg (Option.map Prod.fst) (List.foldl_ext _ _ _ fun best scored _ => ?_)
  rcases best with _ | ⟨candidate, score⟩ <;> rfl

/-- A hint is a similar candidate, and without one no candidate is similar. -/
theorem mostSimilar?_cases (s : Schema) (token : String) :
    (∃ candidate, s.mostSimilar? token = some candidate ∧
      candidate ∈ s.candidates ∧ ResemblesToken token candidate) ∨
    (s.mostSimilar? token = none ∧
      ∀ candidate ∈ s.candidates, ¬ ResemblesToken token candidate) := by
  obtain ⟨absent, chosen⟩ := foldl_choice better_cases (s.similarTo token) none
  rw [mostSimilar?_eq]
  cases found : (s.similarTo token).foldl better none with
  | none =>
      refine .inr ⟨rfl, fun candidate member resembles => ?_⟩
      obtain ⟨scored, listed, _⟩ := mem_similarTo_iff.mpr ⟨member, resembles⟩
      rw [(absent.mp found).2] at listed
      cases listed
  | some best =>
      have member : best ∈ s.similarTo token := (chosen best found).resolve_left (by simp)
      exact .inl ⟨best.1, rfl, mem_similarTo_iff.mp ⟨best, member, rfl⟩⟩

/-! ## Schemas out of definitions -/

/-- Fields, objects and aliases do not get in each other's way. -/
structure Coherent (s : Schema) : Prop where
  distinct : (s.fields.map (·.path)).Nodup
  apart : List.Disjoint s.objects (s.fields.map (·.path))
  aliases : ∀ entry ∈ s.aliases, s.checkAlias entry = .ok ()

theorem coherent_of_ofDefinition (made : ofDefinition d = .ok s) : s.Coherent := by
  obtain ⟨valid, rfl⟩ := ofDefinition_eq_ok_iff.mp made
  have represents := represents_unchecked valid
  exact ⟨represents.distinct, represents.apart, fun _ member => checkAlias_of_valid valid member⟩

namespace Coherent

variable {target : String}

theorem field?_eq_some_iff (coherent : s.Coherent) :
    s.field? path = some f ↔ f ∈ s.fields ∧ f.path = path := by
  constructor
  · exact mem_of_field?
  · rintro ⟨member, rfl⟩
    have found : (s.field? f.path).isSome = true :=
      isSome_field?_iff.mpr (List.mem_map_of_mem member)
    obtain ⟨g, found⟩ := Option.isSome_iff_exists.mp found
    obtain ⟨other, same⟩ := mem_of_field? found
    rw [found, List.inj_on_of_nodup_map coherent.distinct other member same]

theorem of_lookup (coherent : s.Coherent) (found : s.aliases.lookup token = some target) :
    token ∉ s.fields.map (·.path) ∧ token ∉ s.objects ∧ target ∈ s.fields.map (·.path) := by
  have checked := coherent.aliases (token, target) (mem_of_lookup found)
  obtain ⟨_, ⟨noField, noObject⟩, leaf⟩ := checkAlias_eq_ok_iff.mp checked
  exact ⟨noField, noObject, leaf⟩

/-- One step is enough: what an alias stands for is no alias. -/
theorem lookup_target (coherent : s.Coherent) (found : s.aliases.lookup token = some target) :
    s.aliases.lookup target = none := by
  have leaf := (coherent.of_lookup found).2.2
  cases further : s.aliases.lookup target with
  | none => rfl
  | some last => exact absurd leaf (coherent.of_lookup further).1

/-- A path is not taken for another one, whether there are aliases or not. -/
theorem pathOf_eq_self (coherent : s.Coherent)
    (own : token ∈ s.fields.map (·.path) ∨ token ∈ s.objects) : s.pathOf token = token := by
  unfold pathOf
  cases found : s.aliases.lookup token with
  | none => rfl
  | some target =>
      obtain ⟨noField, noObject, _⟩ := coherent.of_lookup found
      exact (own.elim noField noObject).elim

theorem pathOf_eq_iff (coherent : s.Coherent) (leaf : path ∈ s.fields.map (·.path)) :
    s.pathOf token = path ↔ path = token ∨ s.aliases.lookup token = some path := by
  constructor
  · rintro rfl
    unfold pathOf
    cases s.aliases.lookup token with
    | none => exact .inl rfl
    | some target => exact .inr rfl
  · rintro (rfl | found)
    · exact coherent.pathOf_eq_self (.inl leaf)
    · rw [pathOf, found, Option.getD_some]

theorem pathOf_mem_objects_iff (coherent : s.Coherent) :
    s.pathOf token ∈ s.objects ↔ token ∈ s.objects := by
  constructor
  · intro object
    unfold pathOf at object
    cases found : s.aliases.lookup token with
    | none => rwa [found, Option.getD_none] at object
    | some target =>
        rw [found, Option.getD_some] at object
        exact (coherent.apart object (coherent.of_lookup found).2.2).elim
  · intro object
    rwa [coherent.pathOf_eq_self (.inr object)]

end Coherent

theorem mem_selectors_iff :
    path ∈ s.selectors ↔ ∃ f ∈ s.fields, f.searchable = true ∧ f.path = path := by
  simp [selectors, List.mem_map, and_assoc]

theorem selectors_sublist (s : Schema) : s.selectors.Sublist (s.fields.map (·.path)) :=
  List.filter_sublist.map _

/-- The selectors of a coherent schema are the tokens that are found without an alias. -/
theorem Coherent.mem_selectors_iff_resolve (coherent : s.Coherent) :
    token ∈ s.selectors ↔ s.aliases.lookup token = none ∧ ∃ f, s.resolve token = .ok f := by
  constructor
  · intro selector
    obtain ⟨f, member, searchable, rfl⟩ := mem_selectors_iff.mp selector
    have own : f.path ∈ s.fields.map (·.path) := List.mem_map_of_mem member
    constructor
    · cases found : s.aliases.lookup f.path with
      | none => rfl
      | some target => exact absurd own (coherent.of_lookup found).1
    · have found : s.field? (s.pathOf f.path) = some f := by
        rw [coherent.pathOf_eq_self (.inl own), coherent.field?_eq_some_iff]
        exact ⟨member, rfl⟩
      exact ⟨f, resolve_eq_ok_iff.mpr ⟨found, searchable⟩⟩
  · rintro ⟨noAlias, f, result⟩
    obtain ⟨found, searchable⟩ := resolve_eq_ok_iff.mp result
    rw [pathOf, noAlias, Option.getD_none] at found
    obtain ⟨member, path⟩ := mem_of_field? found
    exact mem_selectors_iff.mpr ⟨f, member, searchable, path⟩

theorem Represents.mem_fields_iff (represents : s.Represents d) :
    f ∈ s.fields ↔ ∃ b ∈ d.leaves, b.field? = some f := by
  have entries : some f ∈ s.fields.map some ↔ some f ∈ d.leaves.map Branch.field? := by
    rw [represents.fields]
  simpa [List.mem_map] using entries

theorem leadsTo_iff (coherent : s.Coherent) (represents : s.Represents d) :
    d.LeadsTo token f ↔ s.field? (s.pathOf token) = some f := by
  rw [coherent.field?_eq_some_iff, represents.mem_fields_iff]
  constructor
  · rintro ⟨b, leaf, field, path, leads⟩
    have own : f ∈ s.fields := represents.mem_fields_iff.mpr ⟨b, leaf, field⟩
    rw [← path, ← represents.aliases] at leads
    exact ⟨⟨b, leaf, field⟩, ((coherent.pathOf_eq_iff (List.mem_map_of_mem own)).mpr leads).symm⟩
  · rintro ⟨⟨b, leaf, field⟩, same⟩
    have own : f ∈ s.fields := represents.mem_fields_iff.mpr ⟨b, leaf, field⟩
    have leads := (coherent.pathOf_eq_iff (List.mem_map_of_mem own)).mp same.symm
    have path := (Branch.path_of_field? field).1
    rw [path, represents.aliases] at leads
    exact ⟨b, leaf, field, path, leads⟩

/-- The hint of a refused token says why no field that can be searched was found. -/
theorem refused_of_coherent (coherent : s.Coherent) (represents : s.Represents d)
    {failure : Failure} (result : s.resolve token = .error failure) :
    ∃ hint, failure = .unknownField token hint ∧
      (hint = some .notSearchable ↔ ∃ f, d.LeadsTo token f ∧ f.searchable = false) ∧
      (hint = some .nestedObject ↔ ∃ b ∈ d.objects, b.path = token) ∧
      (∀ candidate, hint = some (.similar candidate) →
        candidate ∈ s.candidates ∧ ResemblesToken token candidate) ∧
      (hint = none → ∀ candidate ∈ s.candidates, ¬ ResemblesToken token candidate) := by
  have objects : (∃ b ∈ d.objects, b.path = token) ↔ s.pathOf token ∈ s.objects := by
    rw [coherent.pathOf_mem_objects_iff, represents.objects, List.mem_map]
  simp only [leadsTo_iff coherent represents, objects]
  -- Of the three ways to be refused each rules out the hints of the other two: fields and objects
  -- are apart, and an alias changes neither what is a field nor what is an object.
  rcases resolve_cases s token with ⟨f, _, _, ok⟩ | ⟨f, found, closed, refused⟩ |
    ⟨missing, object, refused⟩ | ⟨missing, noObject, refused⟩
  · rw [ok] at result
    cases result
  · have noObject : s.pathOf token ∉ s.objects := by
      intro object
      obtain ⟨member, path⟩ := mem_of_field? found
      exact coherent.apart object (path ▸ List.mem_map_of_mem member)
    obtain rfl := Except.error.inj (refused.symm.trans result)
    exact ⟨_, rfl, by simp [found, closed], by simp [noObject], by simp, by simp⟩
  · obtain rfl := Except.error.inj (refused.symm.trans result)
    exact ⟨_, rfl, by simp [missing], by simp [object], by simp, by simp⟩
  · obtain rfl := Except.error.inj (refused.symm.trans result)
    refine ⟨_, rfl, ?_⟩
    rcases mostSimilar?_cases s token with ⟨candidate, hint, member, resembles⟩ | ⟨hint, none⟩
    · rw [hint]
      refine ⟨by simp [missing], by simp [noObject], ?_, by simp⟩
      rintro _ ⟨⟩
      exact ⟨member, resembles⟩
    · rw [hint]
      exact ⟨by simp [missing], by simp [noObject], by simp, fun _ => none⟩

/-- A token is taken for the field to which it leads in the definition of the schema, or it is
refused with a hint that is true. -/
theorem resolves_of_ofDefinition (made : ofDefinition d = .ok s) (token : String) :
    s.Resolves d token := by
  have coherent := coherent_of_ofDefinition made
  obtain ⟨valid, rfl⟩ := ofDefinition_eq_ok_iff.mp made
  have represents := represents_unchecked valid
  have paths := unchecked_paths valid.sound
  refine ⟨?_, ?_, ?_, coherent.mem_selectors_iff_resolve, ?_, ?_⟩
  · intro f
    rw [resolve_eq_ok_iff, leadsTo_iff coherent represents]
  · intro failure result
    exact refused_of_coherent coherent represents result
  · intro target found
    have leaf := (coherent.of_lookup found).2.2
    rw [paths, List.mem_map] at leaf
    exact ⟨valid.aliasFresh _ (mem_of_lookup found), leaf, coherent.lookup_target found⟩
  · rw [← paths]
    exact selectors_sublist _
  · exact represents.distinct.sublist (selectors_sublist _)

/-- An alias for a field in an object; another field is closed to searches. -/
theorem resolves_of_ofDefinition_alias :
    let name : Definition := .string "name"
    let d : SchemaDefinition :=
      ⟨[("tenant", "meta.name")], [Definition.object "meta" [name], name.notSearchable]⟩
    let f : Field := ⟨"meta.name", "meta.name", .string, true, true⟩
    let s : Schema :=
      ⟨[f, ⟨"name", "name", .string, true, false⟩], ["meta"], [("tenant", "meta.name")]⟩
    ofDefinition d = .ok s ∧ s.resolve "tenant" = .ok f ∧ s.Resolves d "tenant" := by
  intro name d f s
  have made : ofDefinition d = .ok s := by decide +kernel
  exact ⟨made, by decide +kernel, resolves_of_ofDefinition made "tenant"⟩

end FilterQuery.Schema
