/-
# FilterQuery.Proofs.Schema.Compilation -- schemas have what their definitions say

The fields of a schema are gathered in one walk, the objects in another, with the path of
the parent handed down as a text.  Where all definitions are sound, both walks come by
the same places as the branches do (`leaves_eq_filterMap`, `objectPaths_eq_map`).

So a schema is made of exactly the definitions that make sense (`ofDefinition_eq_ok_iff`),
and as no two branches have the same path nothing in it takes the place of anything else
(`represents_unchecked`).
-/
import FilterQuery.Proofs.Schema.Validity

namespace FilterQuery

/-- The path that is handed down to definitions below others. -/
def dotted : List String → Option String
  | [] => none
  | parts => some (".".intercalate parts)

theorem dotted_append (parts : List String) (name : String) :
    dotted (parts ++ [name]) = some (".".intercalate (parts ++ [name])) := by
  cases parts <;> rfl

theorem joinPath_dotted (parts : List String) (name : String) :
    joinPath (dotted parts) name = ".".intercalate (parts ++ [name]) := by
  cases parts with
  | nil => simp [dotted, joinPath]
  | cons part parts =>
      rw [String.intercalate_append_of_ne_nil (List.cons_ne_nil _ _) (List.cons_ne_nil _ _),
        String.intercalate_singleton]
      rfl

namespace Definition

variable {d : Definition} {above ds : List Definition}

theorem fieldKind?_eq_none_iff : d.fieldKind? = none ↔ d.kind = .object := by
  unfold fieldKind?
  cases d.kind <;> simp

/-! ## Fields -/

theorem leavesAll_eq_flatMap (parent indexParent : Option String) (ds : List Definition) :
    leavesAll parent indexParent ds = ds.flatMap (leaves parent indexParent) := by
  induction ds with
  | nil => rfl
  | cons d ds ih => rw [leavesAll, ih, List.flatMap_cons]

theorem leaves_eq (parent indexParent : Option String) (d : Definition) :
    leaves parent indexParent d =
      match d.fieldKind? with
      | some kind =>
        [⟨joinPath parent d.name, joinPath indexParent d.nameInIndex, kind, d.wildcards,
          d.searchable⟩]
      | none => d.fields.flatMap
          (leaves (some (joinPath parent d.name)) (some (joinPath indexParent d.nameInIndex))) := by
  cases d
  simp only [← leavesAll_eq_flatMap]
  rfl

/-- The walk that gathers the fields comes by the branches. -/
theorem leaves_eq_filterMap (sound : ∀ b ∈ branches above d, b.tip.Sound) :
    leaves (dotted (above.map (·.name))) (dotted (above.map (·.nameInIndex))) d =
      (branches above d).filterMap Branch.field? := by
  induction d using Definition.induction generalizing above with
  | step d ih =>
      obtain ⟨here, inside⟩ := forall_branches_iff.mp sound
      rw [leaves_eq, branches_eq, joinPath_dotted, joinPath_dotted]
      cases kind : d.fieldKind? with
      | none =>
          have object : Branch.field? ⟨above, d⟩ = none := by simp [Branch.field?, kind]
          rw [List.filterMap_cons_none object, List.filterMap_flatMap, ← dotted_append,
            ← dotted_append]
          refine List.flatMap_congr fun f own => ?_
          have below := @ih f own (above ++ [d]) (forall_branches_of_mem inside own)
          rw [← below, List.map_append, List.map_append, List.map_singleton, List.map_singleton]
      | some kind' =>
          -- Nothing is in a leaf, so its own branch is the only one.
          have empty : d.fields = [] := by
            by_contra filled
            have := fieldKind?_eq_none_iff.mpr (here.fields.mpr filled)
            rw [kind] at this
            cases this
          simp [empty, Branch.field?, kind, Branch.path, Branch.indexPath, Branch.names,
            Branch.indexNames, Branch.trail]

/-! ## Objects -/

theorem objectPathsAll_eq_flatMap (parent : Option String) (ds : List Definition) :
    objectPathsAll parent ds = ds.flatMap (objectPaths parent) := by
  induction ds with
  | nil => rfl
  | cons d ds ih => rw [objectPathsAll, ih, List.flatMap_cons]

theorem objectPaths_eq (parent : Option String) (d : Definition) :
    objectPaths parent d =
      if d.kind = .object then
        joinPath parent d.name :: d.fields.flatMap (objectPaths (some (joinPath parent d.name)))
      else [] := by
  cases d
  rw [objectPaths, ← objectPathsAll_eq_flatMap]

/-- So does the walk that gathers the objects. -/
theorem objectPaths_eq_map (sound : ∀ b ∈ branches above d, b.tip.Sound) :
    objectPaths (dotted (above.map (·.name))) d =
      ((branches above d).filter (·.isObject)).map Branch.path := by
  induction d using Definition.induction generalizing above with
  | step d ih =>
      obtain ⟨here, inside⟩ := forall_branches_iff.mp sound
      rw [objectPaths_eq, branches_eq, joinPath_dotted]
      by_cases object : d.kind = .object
      · have first : Branch.isObject ⟨above, d⟩ = true := by simp [Branch.isObject, object]
        rw [if_pos object, List.filter_cons_of_pos first, List.map_cons, List.filter_flatMap,
          List.map_flatMap, ← dotted_append]
        congr 1
        · simp [Branch.path, Branch.names, Branch.trail]
        · refine List.flatMap_congr fun f own => ?_
          have below := @ih f own (above ++ [d]) (forall_branches_of_mem inside own)
          rw [← below, List.map_append, List.map_singleton]
      · have empty : d.fields = [] := by
          by_contra filled
          exact object (here.fields.mpr filled)
        simp [object, empty, Branch.isObject]

end Definition

/-! ## One field for each leaf -/

namespace Branch

theorem field?_eq_none_iff {b : Branch} : b.field? = none ↔ b.isObject = true := by
  simp [field?, isObject, Definition.fieldKind?_eq_none_iff]

/-- What fields and leaves have in common is the same list, taken from either. -/
theorem map_filterMap_field? {α : Type} {ofField : Field → α} {ofBranch : Branch → α}
    (same : ∀ b f, b.field? = some f → ofField f = ofBranch b) (bs : List Branch) :
    (bs.filterMap field?).map ofField = (bs.filter (!·.isObject)).map ofBranch := by
  induction bs with
  | nil => rfl
  | cons b bs ih =>
      cases found : b.field? with
      | none =>
          have object : b.isObject = true := field?_eq_none_iff.mp found
          simp [found, object, ih]
      | some f =>
          have leaf : b.isObject = false := by
            by_contra object
            rw [field?_eq_none_iff.mpr (by simpa using object)] at found
            cases found
          simp [found, leaf, ih, same b f found]

theorem path_of_field? {b : Branch} {f : Field} (found : b.field? = some f) :
    f.path = b.path ∧ f.indexPath = b.indexPath := by
  obtain ⟨kind, _, rfl⟩ := Option.map_eq_some_iff.mp found
  exact ⟨rfl, rfl⟩

theorem searchable_of_field? {b : Branch} {f : Field} (found : b.field? = some f) :
    f.searchable = b.tip.searchable := by
  obtain ⟨kind, _, rfl⟩ := Option.map_eq_some_iff.mp found
  rfl

theorem exists_field?_of_leaf {d : SchemaDefinition} {b : Branch} (leaf : b ∈ d.leaves) :
    ∃ f, b.field? = some f := by
  have notObject : b.isObject = false := by simpa using (List.mem_filter.mp leaf).2
  rw [← Option.isSome_iff_exists, Option.isSome_iff_ne_none, Ne, field?_eq_none_iff, notObject]
  exact Bool.false_ne_true

end Branch

/-! ## Schemas -/

namespace Schema

variable {d : SchemaDefinition} {s : Schema}

theorem unchecked_fields (sound : ∀ b ∈ d.branches, b.tip.Sound) :
    (unchecked d).fields = d.branches.filterMap Branch.field? := by
  show Definition.leavesAll (dotted []) (dotted []) d.fields = _
  rw [SchemaDefinition.branches, Definition.leavesAll_eq_flatMap,
    Definition.branchesAll_eq_flatMap, List.filterMap_flatMap]
  refine List.flatMap_congr fun f own => ?_
  exact Definition.leaves_eq_filterMap (Definition.forall_branches_of_mem sound own)

theorem unchecked_objects (sound : ∀ b ∈ d.branches, b.tip.Sound) :
    (unchecked d).objects = d.objects.map Branch.path := by
  show Definition.objectPathsAll (dotted []) d.fields = _
  rw [SchemaDefinition.objects, SchemaDefinition.branches, Definition.objectPathsAll_eq_flatMap,
    Definition.branchesAll_eq_flatMap, List.filter_flatMap, List.map_flatMap]
  refine List.flatMap_congr fun f own => ?_
  exact Definition.objectPaths_eq_map (Definition.forall_branches_of_mem sound own)

theorem unchecked_paths (sound : ∀ b ∈ d.branches, b.tip.Sound) :
    (unchecked d).fields.map (·.path) = d.leaves.map Branch.path := by
  rw [unchecked_fields sound]
  exact Branch.map_filterMap_field? (fun b f found => (Branch.path_of_field? found).1) d.branches

/-! ### Tables -/

theorem insertField_of_notMem {table : List Field} {f : Field}
    (fresh : f.path ∉ table.map (·.path)) : insertField table f = table ++ [f] := by
  induction table with
  | nil => rfl
  | cons g table ih =>
      have other : g.path ≠ f.path := fun same => fresh (same ▸ List.mem_cons_self)
      have behind := ih fun member => fresh (List.mem_cons_of_mem _ member)
      rw [insertField, if_neg other, behind, List.cons_append]

theorem foldl_insertField {table fields : List Field}
    (distinct : ((table ++ fields).map (·.path)).Nodup) :
    fields.foldl insertField table = table ++ fields := by
  induction fields generalizing table with
  | nil => rw [List.foldl_nil, List.append_nil]
  | cons f fields ih =>
      have fresh : f.path ∉ table.map (·.path) := by
        intro member
        rw [List.map_append, List.nodup_append] at distinct
        exact distinct.2.2 _ member _ (List.mem_map_of_mem List.mem_cons_self) rfl
      have shifted : table ++ f :: fields = table ++ [f] ++ fields :=
        List.append_cons table f fields
      rw [shifted] at distinct
      rw [List.foldl_cons, insertField_of_notMem fresh, ih distinct, ← shifted]

/-! ### Aliases -/

theorem isSome_field?_iff {path : String} :
    (s.field? path).isSome = true ↔ path ∈ s.fields.map (·.path) := by
  simp only [field?, List.find?_isSome, List.mem_map, beq_iff_eq]

theorem checkAlias_eq_ok_iff {entry : String × String} :
    s.checkAlias entry = .ok () ↔ isName entry.1.toList = true ∧
      (entry.1 ∉ s.fields.map (·.path) ∧ entry.1 ∉ s.objects) ∧
      entry.2 ∈ s.fields.map (·.path) := by
  have missing : (s.field? entry.2).isNone = true ↔ ¬ entry.2 ∈ s.fields.map (·.path) := by
    rw [← isSome_field?_iff, Option.not_isSome_iff_eq_none, Option.isNone_iff_eq_none]
  rw [checkAlias, refuse_eq_ok_iff, refuse_eq_ok_iff, refuse_eq_ok_iff, missing, Bool.or_eq_true,
    isSome_field?_iff, not_or]
  simp

/-! ### Schemas out of definitions -/

theorem checkAlias_of_valid (valid : d.Valid) {entry : String × String}
    (member : entry ∈ d.aliases) : (unchecked d).checkAlias entry = .ok () := by
  rw [checkAlias_eq_ok_iff, unchecked_paths valid.sound, unchecked_objects valid.sound]
  refine ⟨valid.aliasName entry member, ⟨?_, ?_⟩, List.mem_map.mpr (valid.aliasTarget entry member)⟩
  · intro hidden
    obtain ⟨b, leaf, same⟩ := List.mem_map.mp hidden
    exact valid.aliasFresh entry member b (List.mem_of_mem_filter leaf) same
  · intro hidden
    obtain ⟨b, object, same⟩ := List.mem_map.mp hidden
    exact valid.aliasFresh entry member b (List.mem_of_mem_filter object) same

theorem ofDefinition_eq_ok_iff : ofDefinition d = .ok s ↔ d.Valid ∧ s = unchecked d := by
  have walked : Definition.checkAll none [] d.fields = .ok () ↔
      (d.fields.map (·.name)).Nodup ∧ ∀ b ∈ d.branches, b.tip.Sound :=
    Definition.checkAll_eq_ok_iff
  rw [ofDefinition, then_eq_ok_iff, then_eq_ok_iff, walked, forM_eq_ok_iff]
  simp only [checkAlias_eq_ok_iff]
  constructor
  · rintro ⟨⟨distinct, sound⟩, aliases, made⟩
    obtain rfl : s = unchecked d := (Except.ok.inj made).symm
    refine ⟨⟨distinct, sound, fun entry member => (aliases entry member).1, ?_, ?_⟩, rfl⟩
    · intro entry member b inside same
      obtain ⟨_, ⟨noField, noObject⟩, _⟩ := aliases entry member
      rw [unchecked_paths sound] at noField
      rw [unchecked_objects sound] at noObject
      cases object : b.isObject with
      | true =>
          exact noObject (List.mem_map.mpr ⟨b, List.mem_filter.mpr ⟨inside, object⟩, same⟩)
      | false =>
          have leaf : b ∈ d.leaves := List.mem_filter.mpr ⟨inside, by simp [object]⟩
          exact noField (List.mem_map.mpr ⟨b, leaf, same⟩)
    · intro entry member
      have target := (aliases entry member).2.2
      rwa [unchecked_paths sound, List.mem_map] at target
  · rintro ⟨valid, rfl⟩
    refine ⟨⟨valid.distinct, valid.sound⟩, fun entry member => ?_, rfl⟩
    exact checkAlias_eq_ok_iff.mp (checkAlias_of_valid valid member)

theorem represents_unchecked (valid : d.Valid) : (unchecked d).Represents d := by
  have fields := unchecked_fields valid.sound
  have paths := unchecked_paths valid.sound
  have objects := unchecked_objects valid.sound
  have all : (d.branches.map Branch.path).Nodup := Branch.nodup_path valid.sound valid.distinct
  have distinct : ((unchecked d).fields.map (·.path)).Nodup := by
    rw [paths]
    exact all.sublist (List.filter_sublist.map _)
  have entries : (unchecked d).fields.map some = d.leaves.map Branch.field? := by
    rw [fields]
    exact Branch.map_filterMap_field? (fun b f found => found.symm) d.branches
  refine ⟨entries, ?_, distinct, foldl_insertField distinct, ?_, objects, ?_, ?_, rfl⟩
  · have := congrArg List.length entries
    rwa [List.length_map, List.length_map] at this
  · intro f member
    rw [fields] at member
    obtain ⟨b, inside, found⟩ := List.mem_filterMap.mp member
    obtain ⟨path, indexPath⟩ := Branch.path_of_field? found
    have sound := Branch.sound_of_mem_trail valid.sound inside
    rw [path, indexPath, Branch.segments_path sound, Branch.segments_indexPath sound]
    simp [Branch.names, Branch.indexNames]
  · rw [objects]
    exact all.sublist (List.filter_sublist.map _)
  · rw [objects, paths]
    intro path object leaf
    obtain ⟨b, isObject, rfl⟩ := List.mem_map.mp object
    obtain ⟨b', isLeaf, same⟩ := List.mem_map.mp leaf
    obtain ⟨inside, isObject⟩ := List.mem_filter.mp isObject
    obtain ⟨inside', isLeaf⟩ := List.mem_filter.mp isLeaf
    obtain rfl : b' = b := List.inj_on_of_nodup_map all inside' inside same
    simp [isObject] at isLeaf

end Schema

end FilterQuery
