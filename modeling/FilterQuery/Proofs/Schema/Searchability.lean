/-
# FilterQuery.Proofs.Schema.Searchability -- what no token leads to

Only the definition of a leaf says whether tokens may lead to it (`hides_iff`).  So a leaf that
is closed to searches is out of reach (`hides_of_leaf`), and an object is if each of the leaves
in it is closed by itself; that the object is closed makes no difference, although it can be
said.
-/
import FilterQuery.Proofs.Schema.Naming

namespace FilterQuery

namespace Definition

variable {above : List Definition} {d : Definition} {b : Branch}

/-- What a branch goes through has fields. -/
theorem fields_ne_nil_of_mem_above (member : b ∈ branches above d) :
    ∀ a ∈ b.above, a ∈ above ∨ a.fields ≠ [] := by
  induction d using Definition.induction generalizing above with
  | step d ih =>
      intro a through
      rcases mem_branches_iff.mp member with rfl | ⟨f, own, member⟩
      · exact .inl through
      · rcases ih f own member a through with outer | filled
        · rcases List.mem_append.mp outer with outer | here
          · exact .inl outer
          · rw [List.mem_singleton.mp here]
            exact .inr (List.ne_nil_of_mem own)
        · exact .inr filled

end Definition

namespace Branch

variable {d : SchemaDefinition} {b outer : Branch}

/-- Nothing is in a leaf but the leaf. -/
theorem tip_eq_of_isWithin_leaf (valid : d.Valid) (leaf : outer ∈ d.leaves)
    (member : b ∈ d.branches) (within : b.IsWithin outer) : b.tip = outer.tip := by
  rcases List.prefix_concat_iff.mp within with same | through
  · exact (List.singleton_inj.mp (List.append_inj' same rfl).2).symm
  · exfalso
    obtain ⟨first, -, inside⟩ := Definition.mem_branchesAll_iff.mp member
    have above : outer.tip ∈ b.above := through.subset (by simp [trail])
    obtain ⟨isBranch, notObject⟩ := List.mem_filter.mp leaf
    rcases Definition.fields_ne_nil_of_mem_above inside outer.tip above with none | filled
    · cases none
    · have object := (valid.sound outer isBranch).fields.mpr filled
      simp [isObject, object] at notObject

end Branch

namespace Schema

variable {d : SchemaDefinition} {s : Schema}

/-- No token leads into a branch exactly if all leaves there are closed, each by itself. -/
theorem hides_iff (made : ofDefinition d = .ok s) (outer : Branch) :
    s.Hides d outer ↔ ∀ b ∈ d.leaves, b.IsWithin outer → b.tip.searchable = false := by
  constructor
  · intro hides b leaf within
    by_contra searchable
    rw [Bool.not_eq_false] at searchable
    obtain ⟨-, f, found, resolved⟩ := resolve_path_of_searchable made leaf searchable
    exact hides b.path f resolved b (List.mem_of_mem_filter leaf) within found
  · intro closed token f resolved b member within found
    have searchable := ((resolve_eq_ok_iff_leadsTo made).mp resolved).2
    have notObject : b.isObject = false := by
      by_contra object
      rw [Branch.field?_eq_none_iff.mpr (by simpa using object)] at found
      cases found
    have leaf : b ∈ d.leaves := List.mem_filter.mpr ⟨member, by simp [notObject]⟩
    rw [Branch.searchable_of_field? found, closed b leaf within] at searchable
    cases searchable

theorem hides_of_leaf (made : ofDefinition d = .ok s) {outer : Branch} (leaf : outer ∈ d.leaves)
    (closed : outer.tip.searchable = false) : s.Hides d outer := by
  have valid := (ofDefinition_eq_ok_iff.mp made).1
  refine (hides_iff made outer).mpr fun b isLeaf within => ?_
  rw [Branch.tip_eq_of_isWithin_leaf valid leaf (List.mem_of_mem_filter isLeaf) within]
  exact closed

/-- Where a definition is closed to searches, no token leads to it or into it exactly if each leaf
there is closed by itself.  That is so for a leaf; but the leaves that are open in a closed object
are selectors, and found. -/
theorem closed_hidden_iff (made : ofDefinition d = .ok s) {outer : Branch}
    (declared : outer ∈ d.branches) (closed : outer.tip.searchable = false) :
    (s.Hides d outer ↔ ∀ b ∈ d.leaves, b.IsWithin outer → b.tip.searchable = false) ∧
    (outer.isObject = false → s.Hides d outer) ∧
    (∀ b ∈ d.leaves, b.IsWithin outer → b.tip.searchable = true →
      b.path ∈ s.selectors ∧ ∃ f, b.field? = some f ∧ s.resolve b.path = .ok f) := by
  refine ⟨hides_iff made outer, fun notObject => ?_, fun b leaf _ searchable => ?_⟩
  · have leaf : outer ∈ d.leaves := List.mem_filter.mpr ⟨declared, by simp [notObject]⟩
    exact hides_of_leaf made leaf closed
  · exact resolve_path_of_searchable made leaf searchable

/-- A closed object with one leaf, which is closed as well. -/
theorem closed_hidden_iff_both :
    let leaf : Definition := (Definition.string "a").notSearchable
    let object : Definition := (Definition.object "o" [leaf]).notSearchable
    let d : SchemaDefinition := ⟨[("alias", "o.a")], [object]⟩
    let s : Schema := ⟨[⟨"o.a", "o.a", .string, true, false⟩], ["o"], [("alias", "o.a")]⟩
    ofDefinition d = .ok s ∧ s.Hides d ⟨[], object⟩ ∧ s.Hides d ⟨[object], leaf⟩ := by
  intro leaf object d s
  have made : ofDefinition d = .ok s := by decide +kernel
  have outer : (⟨[], object⟩ : Branch) ∈ d.branches := List.mem_cons_self
  have inner : (⟨[object], leaf⟩ : Branch) ∈ d.branches :=
    List.mem_cons_of_mem _ List.mem_cons_self
  have leaves : d.leaves = [⟨[object], leaf⟩] := rfl
  refine ⟨made, ?_, (closed_hidden_iff made inner rfl).2.1 rfl⟩
  refine (closed_hidden_iff made outer rfl).1.mpr ?_
  rw [leaves]
  rintro b (_ | ⟨_, ⟨⟩⟩) _
  rfl

/-- An object is closed, and its attribute is found by its path and by an alias all the same. -/
theorem closed_object_reached :
    let leaf : Definition := .string "a"
    let object : Definition := (Definition.object "o" [leaf]).notSearchable
    let d : SchemaDefinition := ⟨[("alias", "o.a")], [object]⟩
    let f : Field := ⟨"o.a", "o.a", .string, true, true⟩
    let s : Schema := ⟨[f], ["o"], [("alias", "o.a")]⟩
    ofDefinition d = .ok s ∧ ⟨[], object⟩ ∈ d.branches ∧ object.searchable = false ∧
      s.resolve "o.a" = .ok f ∧ s.resolve "alias" = .ok f ∧ ¬ s.Hides d ⟨[], object⟩ := by
  intro leaf object d f s
  have made : ofDefinition d = .ok s := by decide +kernel
  have found : s.resolve "o.a" = .ok f := by decide +kernel
  refine ⟨made, List.mem_cons_self, rfl, found, by decide +kernel, ?_⟩
  intro hides
  have inside : (⟨[object], leaf⟩ : Branch) ∈ d.branches :=
    List.mem_cons_of_mem _ List.mem_cons_self
  exact hides "o.a" f found _ inside (List.prefix_append [object] [leaf]) rfl

end Schema

end FilterQuery
