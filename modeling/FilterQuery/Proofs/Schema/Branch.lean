/-
# FilterQuery.Proofs.Schema.Branch -- branches and their paths

What holds of the definitions in an object holds of the object by one induction over
definitions (`Definition.induction`); lists of definitions need none of their own, as
`branchesAll` and its like only collect what there is for each item.

Where all definitions are sound, no name on a branch has a dot in it, so a path can be
taken apart into the names again (`segments_intercalate`).  Branches differ in their
names (`nodup_names`), and therefore in their paths (`nodup_path`).
-/
import FilterQuery.Proofs.Reading.Selector
import FilterQuery.Schema.Meaning
import Mathlib.Data.List.Nodup

namespace FilterQuery

namespace Definition

mutual
theorem inductionOn {motive : Definition → Prop}
    (step : ∀ d, (∀ f ∈ d.fields, motive f) → motive d) : (d : Definition) → motive d
  | ⟨name, kind, format, values, fields, indexName, searchable, wildcards⟩ =>
      step ⟨name, kind, format, values, fields, indexName, searchable, wildcards⟩
        (inductionOnAll step fields)

theorem inductionOnAll {motive : Definition → Prop}
    (step : ∀ d, (∀ f ∈ d.fields, motive f) → motive d) :
    (ds : List Definition) → ∀ d ∈ ds, motive d
  | [] => fun _ member => absurd member List.not_mem_nil
  | d :: ds => List.forall_mem_cons.mpr ⟨inductionOn step d, inductionOnAll step ds⟩
end

/-- What holds of a definition if it holds of its own fields holds of all. -/
@[elab_as_elim]
theorem induction {motive : Definition → Prop} (d : Definition)
    (step : ∀ d, (∀ f ∈ d.fields, motive f) → motive d) : motive d :=
  inductionOn step d

variable {above : List Definition} {d : Definition} {ds : List Definition} {b : Branch}

/-! ## Lists of branches -/

theorem branchesAll_eq_flatMap (above : List Definition) (ds : List Definition) :
    branchesAll above ds = ds.flatMap (branches above) := by
  induction ds with
  | nil => rfl
  | cons d ds ih => rw [branchesAll, ih, List.flatMap_cons]

theorem branches_eq (above : List Definition) (d : Definition) :
    branches above d = ⟨above, d⟩ :: d.fields.flatMap (branches (above ++ [d])) := by
  cases d
  rw [branches, branchesAll_eq_flatMap]

theorem mem_branches_iff :
    b ∈ branches above d ↔ b = ⟨above, d⟩ ∨ ∃ f ∈ d.fields, b ∈ branches (above ++ [d]) f := by
  rw [branches_eq, List.mem_cons, List.mem_flatMap]

theorem mem_branchesAll_iff : b ∈ branchesAll above ds ↔ ∃ d ∈ ds, b ∈ branches above d := by
  rw [branchesAll_eq_flatMap, List.mem_flatMap]

theorem forall_branches_of_mem {motive : Branch → Prop}
    (all : ∀ b ∈ branchesAll above ds, motive b) (own : d ∈ ds) :
    ∀ b ∈ branches above d, motive b :=
  fun b inside => all b (mem_branchesAll_iff.mpr ⟨d, own, inside⟩)

theorem forall_branches_iff {motive : Branch → Prop} :
    (∀ b ∈ branches above d, motive b) ↔
      motive ⟨above, d⟩ ∧ ∀ b ∈ branchesAll (above ++ [d]) d.fields, motive b := by
  rw [branches_eq, ← branchesAll_eq_flatMap, List.forall_mem_cons]

/-- A branch goes on from where it is looked for. -/
theorem trail_begins : b ∈ branches above d → above ++ [d] <+: b.trail := by
  induction d using Definition.induction generalizing above with
  | step d ih =>
      intro member
      rcases mem_branches_iff.mp member with rfl | ⟨f, own, member⟩
      · exact List.prefix_rfl
      · exact (List.prefix_append _ _).trans (ih f own member)

/-- Every definition on a branch is itself at the end of one. -/
theorem sound_of_mem_trail (outer : ∀ a ∈ above, a.Sound)
    (sound : ∀ b ∈ branches above d, b.tip.Sound) :
    b ∈ branches above d → ∀ a ∈ b.trail, a.Sound := by
  induction d using Definition.induction generalizing above with
  | step d ih =>
      intro member
      obtain ⟨here, inside⟩ := forall_branches_iff.mp sound
      have through : ∀ a ∈ above ++ [d], a.Sound := by
        intro a onTrail
        rcases List.mem_append.mp onTrail with onTrail | onTrail
        · exact outer a onTrail
        · rw [List.mem_singleton.mp onTrail]
          exact here
      rcases mem_branches_iff.mp member with rfl | ⟨f, own, member⟩
      · exact through
      · exact ih f own through (forall_branches_of_mem inside own) member

/-! ## No two branches have the same names -/

theorem names_begin (member : b ∈ branches above d) :
    above.map (·.name) ++ [d.name] <+: b.names := by
  have := (trail_begins member).map (·.name)
  rwa [List.map_append, List.map_singleton] at this

/-- Branches into two definitions differ where these have their names. -/
theorem disjoint_names {d' : Definition} (different : d.name ≠ d'.name) :
    List.Disjoint ((branches above d).map Branch.names) ((branches above d').map Branch.names) := by
  rintro names into into'
  obtain ⟨b, member, rfl⟩ := List.mem_map.mp into
  obtain ⟨b', member', same⟩ := List.mem_map.mp into'
  have first := names_begin member
  have second := same ▸ names_begin member'
  have equal := List.IsPrefix.eq_of_length
    (List.prefix_of_prefix_length_le first second (by simp)) (by simp)
  exact different (by simpa using equal)

theorem nodup_namesAll (each : ∀ d ∈ ds, ((branches above d).map Branch.names).Nodup)
    (distinct : (ds.map (·.name)).Nodup) : ((branchesAll above ds).map Branch.names).Nodup := by
  rw [branchesAll_eq_flatMap, List.map_flatMap, List.nodup_flatMap]
  refine ⟨each, ?_⟩
  exact (List.pairwise_map.mp distinct).imp disjoint_names

theorem nodup_names (sound : ∀ b ∈ branches above d, b.tip.Sound) :
    ((branches above d).map Branch.names).Nodup := by
  induction d using Definition.induction generalizing above with
  | step d ih =>
      obtain ⟨here, inside⟩ := forall_branches_iff.mp sound
      have distinct := nodup_namesAll (fun f own => ih f own (forall_branches_of_mem inside own))
        here.distinct
      rw [branches_eq, ← branchesAll_eq_flatMap, List.map_cons, List.nodup_cons]
      refine ⟨?_, distinct⟩
      -- The branch to an object is shorter than all branches into it.
      intro again
      obtain ⟨b, member, same⟩ := List.mem_map.mp again
      obtain ⟨f, own, member⟩ := mem_branchesAll_iff.mp member
      have longer := (names_begin member).length_le
      rw [same] at longer
      simp [Branch.names, Branch.trail] at longer

end Definition

/-! ## Paths -/

namespace Branch

open Expression

/-- The parts of a dotted path are what it was made of. -/
theorem segments_intercalate {parts : List String} (nonempty : parts ≠ [])
    (noDot : ∀ part ∈ parts, ∀ c ∈ part.toList, c ≠ '.') :
    Selector.segments (".".intercalate parts).toList = parts.map String.toList := by
  induction parts with
  | nil => exact absurd rfl nonempty
  | cons part parts ih =>
      have first : ∀ c ∈ part.toList, c ≠ '.' := noDot part List.mem_cons_self
      cases parts with
      | nil => rw [String.intercalate_singleton, segments_of_no_dot first]; rfl
      | cons next parts =>
          have others := ih (List.cons_ne_nil _ _) fun p member =>
            noDot p (List.mem_cons_of_mem _ member)
          rw [toList_intercalate_cons part (List.cons_ne_nil _ _), segments_append_dot first, others]
          rfl

variable {ds : List Definition} {b : Branch}

theorem not_dot_of_sound {d : Definition} (sound : d.Sound) : ∀ c ∈ d.name.toList, c ≠ '.' :=
  not_dot_of_isName sound.name

theorem not_dot_of_nameInIndex {d : Definition} (sound : d.Sound) :
    ∀ c ∈ d.nameInIndex.toList, c ≠ '.' := by
  unfold Definition.nameInIndex
  cases given : d.indexName with
  | none => exact not_dot_of_sound sound
  | some name => exact fun c member => ((sound.indexName name given).2 c member).2

theorem sound_of_mem_trail (sound : ∀ b ∈ Definition.branchesAll [] ds, b.tip.Sound)
    (member : b ∈ Definition.branchesAll [] ds) : ∀ a ∈ b.trail, a.Sound := by
  obtain ⟨d, own, member⟩ := Definition.mem_branchesAll_iff.mp member
  have outermost : ∀ a ∈ ([] : List Definition), a.Sound := fun a outside =>
    absurd outside List.not_mem_nil
  exact Definition.sound_of_mem_trail outermost (Definition.forall_branches_of_mem sound own) member

theorem segments_trail {spell : Definition → String}
    (noDot : ∀ a ∈ b.trail, ∀ c ∈ (spell a).toList, c ≠ '.') :
    Selector.segments (".".intercalate (b.trail.map spell)).toList =
      (b.trail.map spell).map String.toList := by
  apply segments_intercalate
  · simp [trail]
  · intro part member
    obtain ⟨a, onTrail, rfl⟩ := List.mem_map.mp member
    exact noDot a onTrail

theorem segments_path (sound : ∀ a ∈ b.trail, a.Sound) :
    Selector.segments b.path.toList = b.names.map String.toList :=
  segments_trail fun a onTrail => not_dot_of_sound (sound a onTrail)

theorem segments_indexPath (sound : ∀ a ∈ b.trail, a.Sound) :
    Selector.segments b.indexPath.toList = b.indexNames.map String.toList :=
  segments_trail fun a onTrail => not_dot_of_nameInIndex (sound a onTrail)

theorem nodup_path (sound : ∀ b ∈ Definition.branchesAll [] ds, b.tip.Sound)
    (distinct : (ds.map (·.name)).Nodup) :
    ((Definition.branchesAll [] ds).map path).Nodup := by
  have names : ((Definition.branchesAll [] ds).map Branch.names).Nodup := by
    refine Definition.nodup_namesAll (fun d own => ?_) distinct
    exact Definition.nodup_names (Definition.forall_branches_of_mem sound own)
  have recovered : ((Definition.branchesAll [] ds).map path).map (Selector.segments ·.toList) =
      ((Definition.branchesAll [] ds).map Branch.names).map (List.map String.toList) := by
    simp only [List.map_map]
    refine List.map_congr_left fun b member => ?_
    exact segments_path (sound_of_mem_trail sound member)
  apply List.Nodup.of_map (Selector.segments ·.toList)
  rw [recovered]
  exact names.map (List.map_injective_iff.mpr fun s t same => String.toList_inj.mp same)

end Branch

end FilterQuery
