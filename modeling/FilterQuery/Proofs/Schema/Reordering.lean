/-
# FilterQuery.Proofs.Schema.Reordering -- what the order of aliases decides

Aliases are checked one by one, so the first that makes no sense is named, and another one is first
in another order (`sameResult_iff`).  All else about a schema is the same in every order.

A token is looked up in a table with distinct names, where the order is of no account
(`pathOf_of_sameTables`).  What is suggested is the last of the most similar candidates, and the
fields stand in front of the aliases: so the suggestion is the same if at most one alias is most
similar (`mostSimilar?_of_untied`), and if there are two, the one that comes last is suggested
(`mostSimilar?_of_last`).
-/
import FilterQuery.Proofs.Number.Order
import FilterQuery.Proofs.Schema.Resolution
import FilterQuery.Schema.Reordering
import Mathlib.Data.List.Induction

namespace FilterQuery.Schema

open FilterQuery.Number

/-! ## Definitions -/

section Definitions

variable {d d' : SchemaDefinition}

theorem checkAlias_of_fields (same : d.fields = d'.fields) :
    (unchecked d).checkAlias = (unchecked d').checkAlias := by
  obtain ⟨aliases, fields⟩ := d
  obtain rfl : fields = d'.fields := same
  rfl

theorem valid_iff : d.Valid ↔ Definition.checkAll none [] d.fields = .ok () ∧
    ∀ entry ∈ d.aliases, (unchecked d).checkAlias entry = .ok () := by
  have made : ofDefinition d = .ok (unchecked d) ↔ d.Valid := by
    rw [ofDefinition_eq_ok_iff, and_iff_left rfl]
  rw [← made, ofDefinition, then_eq_ok_iff, then_eq_ok_iff, forM_eq_ok_iff]
  exact and_congr_right fun _ => and_iff_left rfl

theorem refusesTwo_iff : d.RefusesTwo ↔ Definition.checkAll none [] d.fields = .ok () ∧
    ∃ a ∈ d.aliases, ∃ b ∈ d.aliases, a.1 ≠ b.1 ∧
      (unchecked d).checkAlias a ≠ .ok () ∧ (unchecked d).checkAlias b ≠ .ok () := by
  have alone (entry : String × String) :
      (unchecked ⟨[entry], d.fields⟩).checkAlias = (unchecked d).checkAlias :=
    checkAlias_of_fields rfl
  simp only [SchemaDefinition.RefusesTwo, valid_iff, alone, List.forall_mem_singleton,
    List.not_mem_nil, false_implies, implies_true, and_true]
  refine and_congr_right fun sound => ?_
  simp [sound]

/-- The fault of an alias has its name. -/
def aliasName? : SchemaFault → Option String
  | .invalidAliasName name | .aliasShadowsField name | .aliasWithoutTarget name _ => some name
  | _ => none

theorem aliasName?_of_checkAlias {s : Schema} {entry : String × String} {fault : SchemaFault}
    (refused : s.checkAlias entry = .error fault) : aliasName? fault = some entry.1 := by
  obtain ⟨name, target⟩ := entry
  rw [checkAlias] at refused
  split at refused
  · cases refused
    rfl
  · split at refused
    · cases refused
      rfl
    · split at refused
      · cases refused
        rfl
      · cases refused

end Definitions


section Results

variable {s : Schema} {d d' : SchemaDefinition}

theorem ofDefinition_of_fault {fault : SchemaFault}
    (faulty : Definition.checkAll none [] d.fields = .error fault) :
    ofDefinition d = .error fault := by
  rw [ofDefinition, faulty]
  rfl

/-- Where the fields make sense, the first alias that does not is to blame. -/
theorem ofDefinition_eq_error_iff (sound : Definition.checkAll none [] d.fields = .ok ())
    {fault : SchemaFault} : ofDefinition d = .error fault ↔
      ∃ before a behind, d.aliases = before ++ a :: behind ∧
        (∀ b ∈ before, (unchecked d).checkAlias b = .ok ()) ∧
        (unchecked d).checkAlias a = .error fault := by
  rw [← forM_eq_error_iff, ofDefinition, sound]
  show (d.aliases.forM (unchecked d).checkAlias >>= fun _ => _) = _ ↔ _
  rw [bind_eq_error_iff]
  refine or_iff_left ?_
  rintro ⟨_, _, impossible⟩
  cases impossible

/-- Without two aliases to choose from it does not matter which one comes first. -/
theorem ofDefinition_eq_error_iff_mem (distinct : (d.aliases.map (·.1)).Nodup)
    (single : ¬ d.RefusesTwo) (sound : Definition.checkAll none [] d.fields = .ok ())
    {fault : SchemaFault} : ofDefinition d = .error fault ↔
      ∃ a ∈ d.aliases, (unchecked d).checkAlias a = .error fault := by
  constructor
  · intro refused
    obtain ⟨before, a, behind, split, -, failed⟩ := (ofDefinition_eq_error_iff sound).mp refused
    exact ⟨a, by simp [split], failed⟩
  · rintro ⟨a, member, failed⟩
    cases made : ofDefinition d with
    | ok s =>
        have passed := (valid_iff.mp (ofDefinition_eq_ok_iff.mp made).1).2 a member
        rw [failed] at passed
        cases passed
    | error other =>
        obtain ⟨before, b, behind, split, -, failed'⟩ := (ofDefinition_eq_error_iff sound).mp made
        have member' : b ∈ d.aliases := by simp [split]
        have name : a.1 = b.1 := by
          by_contra two
          refine single (refusesTwo_iff.mpr ⟨sound, a, member, b, member', two, ?_, ?_⟩)
          · simp [failed]
          · simp [failed']
        obtain rfl := List.inj_on_of_nodup_map distinct member member' name
        exact congrArg Except.error (Except.error.inj (failed'.symm.trans failed))

theorem sameTables_unchecked (reordered : d.Reordered d') :
    (unchecked d).SameTables (unchecked d') := by
  refine ⟨?_, ?_, reordered.aliases⟩ <;> simp only [unchecked, reordered.fields]

theorem ofDefinition_of_reordered (reordered : d.Reordered d') (made : ofDefinition d = .ok s) :
    ofDefinition d' = .ok (unchecked d') ∧ s.SameTables (unchecked d') := by
  obtain ⟨valid, rfl⟩ := ofDefinition_eq_ok_iff.mp made
  refine ⟨ofDefinition_eq_ok_iff.mpr ⟨?_, rfl⟩, sameTables_unchecked reordered⟩
  rw [valid_iff] at valid ⊢
  rw [← reordered.fields, ← checkAlias_of_fields reordered.fields]
  exact ⟨valid.1, fun entry member => valid.2 entry (reordered.aliases.mem_iff.mpr member)⟩

theorem not_refusesTwo_of_reordered (reordered : d.Reordered d') (single : ¬ d.RefusesTwo) :
    ¬ d'.RefusesTwo := by
  rintro ⟨sound, a, member, b, member', others⟩
  rw [← reordered.fields] at sound others
  exact single ⟨sound, a, reordered.aliases.mem_iff.mpr member, b,
    reordered.aliases.mem_iff.mpr member', others⟩

theorem sameResult_of_not_refusesTwo (distinct : (d.aliases.map (·.1)).Nodup)
    (single : ¬ d.RefusesTwo) (reordered : d.Reordered d') :
    SameResult (ofDefinition d) (ofDefinition d') := by
  cases sound : Definition.checkAll none [] d.fields with
  | error fault =>
      have sound' := sound
      rw [reordered.fields] at sound'
      rw [ofDefinition_of_fault sound, ofDefinition_of_fault sound']
      exact .refused fault
  | ok _ =>
      have sound' := sound
      rw [reordered.fields] at sound'
      cases made : ofDefinition d with
      | ok s =>
          obtain ⟨made', same⟩ := ofDefinition_of_reordered reordered made
          rw [made']
          exact .made same
      | error fault =>
          have distinct' : (d'.aliases.map (·.1)).Nodup :=
            (reordered.aliases.map _).nodup_iff.mp distinct
          have single' := not_refusesTwo_of_reordered reordered single
          rw [ofDefinition_eq_error_iff_mem distinct single sound] at made
          obtain ⟨a, member, failed⟩ := made
          have made' : ofDefinition d' = .error fault := by
            rw [ofDefinition_eq_error_iff_mem distinct' single' sound',
              ← checkAlias_of_fields reordered.fields]
            exact ⟨a, reordered.aliases.mem_iff.mp member, failed⟩
          rw [made']
          exact .refused fault

/-- In an order that begins with an alias that makes no sense, this is the one that is named. -/
theorem exists_reordered_of_refused (sound : Definition.checkAll none [] d.fields = .ok ())
    {a : String × String} (member : a ∈ d.aliases)
    (refused : (unchecked d).checkAlias a ≠ .ok ()) :
    ∃ d' fault, d.Reordered d' ∧ ofDefinition d' = .error fault ∧ aliasName? fault = some a.1 := by
  cases checked : (unchecked d).checkAlias a with
  | ok _ => exact absurd checked refused
  | error fault =>
      let d' : SchemaDefinition := ⟨a :: d.aliases.erase a, d.fields⟩
      have first : (unchecked d').checkAlias a = .error fault := checked
      have sound' : Definition.checkAll none [] d'.fields = .ok () := sound
      have made : ofDefinition d' = .error fault :=
        (ofDefinition_eq_error_iff sound').mpr ⟨[], a, _, rfl, by simp, first⟩
      exact ⟨d', fault, ⟨rfl, List.perm_cons_erase member⟩, made, aliasName?_of_checkAlias checked⟩

/-- A result is the same as at most one fault. -/
theorem eq_of_sameResult {result : Except SchemaFault Schema} {fault fault' : SchemaFault}
    (same : SameResult result (.error fault)) (same' : SameResult result (.error fault')) :
    fault = fault' := by
  cases same
  cases same'
  rfl

/-- The result is the same in every order, but for two aliases that make no sense. -/
theorem sameResult_iff (distinct : (d.aliases.map (·.1)).Nodup) :
    (∀ d', d.Reordered d' → SameResult (ofDefinition d) (ofDefinition d')) ↔ ¬ d.RefusesTwo := by
  refine ⟨fun same two => ?_, fun single d' => sameResult_of_not_refusesTwo distinct single⟩
  obtain ⟨sound, a, member, b, member', apart, refused, refused'⟩ := refusesTwo_iff.mp two
  obtain ⟨d₁, fault, reordered, made, name⟩ := exists_reordered_of_refused sound member refused
  obtain ⟨d₂, fault', reordered', made', name'⟩ :=
    exists_reordered_of_refused sound member' refused'
  have first := same d₁ reordered
  have second := same d₂ reordered'
  rw [made] at first
  rw [made'] at second
  rw [eq_of_sameResult first second, name'] at name
  exact apart (Option.some.inj name).symm

end Results

/-! ## The best of scored names -/

section Best

variable {w v a best : String × Float} {items items' front : List (String × Float)}

/-- Among numbers it does not matter where one begins to compare. -/
theorem better_assoc (number : IsNumber w.2) (number' : IsNumber v.2) (number'' : IsNumber a.2) :
    better (better (some w) v) a = (better (some v) a).elim (some w) (better (some w)) := by
  have wv := double_le_total number number'
  have va := double_le_total number' number''
  by_cases first : w.2 ≤ v.2 <;> by_cases second : v.2 ≤ a.2
  · simp [better, first, second, double_le_trans first second]
  · simp [better, first, second]
  · simp [better, first, second]
  · have third : ¬ w.2 ≤ a.2 := fun h => first (double_le_trans h (va.resolve_left second))
    simp [better, first, second, third]

theorem mem_of_foldl_better (found : items.foldl better none = some best) : best ∈ items :=
  ((foldl_choice better_cases items none).2 best found).resolve_left nofun

theorem foldl_better_eq_none_iff : items.foldl better none = none ↔ items = [] :=
  (foldl_choice better_cases items none).1.trans (and_iff_right rfl)

/-- What stands in front of a list is compared with the best of it. -/
theorem foldl_better_some (numbers : ∀ a ∈ items, IsNumber a.2) (number : IsNumber w.2) :
    items.foldl better (some w) =
      (items.foldl better none).elim (some w) (better (some w)) := by
  -- From the end, so that both folds make the same last comparison.
  induction items using List.reverseRecOn with
  | nil => rfl
  | append_singleton items a ih =>
      have numbers' : ∀ b ∈ items, IsNumber b.2 :=
        fun b member => numbers b (List.mem_append_left _ member)
      rw [List.foldl_append, List.foldl_append, ih numbers']
      cases found : items.foldl better none with
      | none => rfl
      | some v =>
          exact better_assoc number (numbers' v (mem_of_foldl_better found)) (numbers a (by simp))

theorem le_of_foldl_better (numbers : ∀ a ∈ items, IsNumber a.2)
    (found : items.foldl better none = some best) : ∀ a ∈ items, a.2 ≤ best.2 := by
  induction items generalizing best with
  | nil => cases found
  | cons b items ih =>
      have number : IsNumber b.2 := numbers b List.mem_cons_self
      have numbers' : ∀ a ∈ items, IsNumber a.2 :=
        fun a member => numbers a (List.mem_cons_of_mem _ member)
      have self : b.2 ≤ b.2 := (double_le_total number number).elim id id
      have start : items.foldl better (some b) = some best := found
      rw [foldl_better_some numbers' number] at start
      cases rest : items.foldl better none with
      | none =>
          rw [rest] at start
          cases start
          obtain rfl := foldl_better_eq_none_iff.mp rest
          simpa using self
      | some v =>
          rw [rest] at start
          have below := ih numbers' rest
          by_cases more : b.2 ≤ v.2
          · obtain rfl : v = best := by simpa [better, more] using start
            exact List.forall_mem_cons.mpr ⟨more, below⟩
          · obtain rfl : b = best := by simpa [better, more] using start
            have number' := numbers' v (mem_of_foldl_better rest)
            have less : v.2 ≤ b.2 := (double_le_total number number').resolve_left more
            exact List.forall_mem_cons.mpr
              ⟨self, fun a member => double_le_trans (below a member) less⟩

/-- The best of a list in two orders: both are as good as can be. -/
theorem foldl_better_of_perm (numbers : ∀ a ∈ items, IsNumber a.2) (perm : items.Perm items') :
    (items.foldl better none = none ∧ items'.foldl better none = none) ∨
    ∃ v v', items.foldl better none = some v ∧ items'.foldl better none = some v' ∧
      (v ∈ items ∧ ∀ a ∈ items, a.2 ≤ v.2) ∧ v' ∈ items ∧ ∀ a ∈ items, a.2 ≤ v'.2 := by
  have numbers' : ∀ a ∈ items', IsNumber a.2 :=
    fun a member => numbers a (perm.mem_iff.mpr member)
  cases found : items.foldl better none with
  | none =>
      obtain rfl := foldl_better_eq_none_iff.mp found
      obtain rfl := perm.nil_eq
      exact .inl ⟨rfl, rfl⟩
  | some v =>
      cases found' : items'.foldl better none with
      | none =>
          obtain rfl := foldl_better_eq_none_iff.mp found'
          obtain rfl := perm.eq_nil
          cases found
      | some v' =>
          have most := le_of_foldl_better numbers found
          have most' := le_of_foldl_better numbers' found'
          refine .inr ⟨v, v', rfl, rfl, ⟨mem_of_foldl_better found, most⟩, ?_, ?_⟩
          · exact perm.mem_iff.mpr (mem_of_foldl_better found')
          · exact fun a member => most' a (perm.mem_iff.mp member)

/-- If one of the items behind is the best, or the best is in front, their order does not count. -/
theorem foldl_better_append_of_perm (numbers : ∀ a ∈ front ++ items, IsNumber a.2)
    (perm : items.Perm items')
    (single : ∀ v ∈ items, ∀ v' ∈ items, (∀ a ∈ front ++ items, a.2 ≤ v.2) →
      (∀ a ∈ front ++ items, a.2 ≤ v'.2) → v.1 = v'.1) :
    ((front ++ items').foldl better none).map (·.1) =
      ((front ++ items).foldl better none).map (·.1) := by
  have behind : ∀ a ∈ items, IsNumber a.2 :=
    fun a member => numbers a (List.mem_append_right _ member)
  have behind' : ∀ a ∈ items', IsNumber a.2 :=
    fun a member => behind a (perm.mem_iff.mpr member)
  have before : ∀ a ∈ front, IsNumber a.2 :=
    fun a member => numbers a (List.mem_append_left _ member)
  rw [List.foldl_append, List.foldl_append]
  cases first : front.foldl better none with
  | none =>
      obtain rfl := foldl_better_eq_none_iff.mp first
      rcases foldl_better_of_perm behind perm with ⟨found, found'⟩ |
        ⟨v, v', found, found', ⟨member, most⟩, member', most'⟩
      · rw [found, found']
      · rw [found, found', Option.map_some, Option.map_some]
        exact congrArg some (single v' member' v member most' most)
  | some w =>
      have inFront := mem_of_foldl_better first
      have below := le_of_foldl_better before first
      rw [foldl_better_some behind (before w inFront), foldl_better_some behind' (before w inFront)]
      rcases foldl_better_of_perm behind perm with ⟨found, found'⟩ |
        ⟨v, v', found, found', ⟨member, most⟩, member', most'⟩
      · rw [found, found']
      · rw [found, found', Option.elim_some, Option.elim_some, better, better]
        by_cases more : w.2 ≤ v.2
        -- The two best have the same score, so both are above what is in front, or neither is.
        · have more' : w.2 ≤ v'.2 := double_le_trans more (most' v member)
          have overall {u : String × Float} (above : w.2 ≤ u.2) (most : ∀ a ∈ items, a.2 ≤ u.2) :
              ∀ a ∈ front ++ items, a.2 ≤ u.2 :=
            List.forall_mem_append.mpr ⟨fun a own => double_le_trans (below a own) above, most⟩
          rw [if_pos more, if_pos more', Option.map_some, Option.map_some]
          exact congrArg some
            (single v' member' v member (overall more' most') (overall more most))
        · have more' : ¬ w.2 ≤ v'.2 := fun h => more (double_le_trans h (most v' member'))
          rw [if_neg more, if_neg more']

end Best

/-! ## Tokens -/

section Tokens

variable {s s' : Schema} {token name : String}

theorem lookup_eq_some_iff_mem {entries : List (String × String)} {target : String}
    (distinct : (entries.map (·.1)).Nodup) :
    entries.lookup token = some target ↔ (token, target) ∈ entries := by
  refine ⟨mem_of_lookup, fun member => ?_⟩
  induction entries with
  | nil => cases member
  | cons entry entries ih =>
      obtain ⟨fresh, distinct⟩ := List.nodup_cons.mp distinct
      rcases List.mem_cons.mp member with rfl | member
      · simp
      · have other : token ≠ entry.1 := by
          rintro rfl
          exact fresh (List.mem_map.mpr ⟨(entry.1, target), member, rfl⟩)
        rw [List.lookup_cons, beq_eq_false_iff_ne.mpr other]
        exact ih distinct member

theorem pathOf_of_sameTables (same : s.SameTables s') (distinct : (s.aliases.map (·.1)).Nodup)
    (token : String) : s'.pathOf token = s.pathOf token := by
  have distinct' : (s'.aliases.map (·.1)).Nodup :=
    (same.aliases.map _).nodup_iff.mp distinct
  have found : s'.aliases.lookup token = s.aliases.lookup token := by
    refine Option.ext fun target => ?_
    rw [lookup_eq_some_iff_mem distinct, lookup_eq_some_iff_mem distinct', same.aliases.mem_iff]
  rw [pathOf, pathOf, found]

theorem field?_of_sameTables (same : s.SameTables s') (path : String) :
    s'.field? path = s.field? path := by
  rw [field?, field?, same.fields]

theorem mem_candidates_of_sameTables (same : s.SameTables s') :
    name ∈ s'.candidates ↔ name ∈ s.candidates := by
  rw [candidates, candidates, List.mem_append, List.mem_append, selectors, selectors, same.fields,
    (same.aliases.map _).mem_iff]

theorem MostSimilar.of_sameTables (same : s.SameTables s') (most : s.MostSimilar token name) :
    s'.MostSimilar token name :=
  ⟨(mem_candidates_of_sameTables same).mpr most.isCandidate, most.resembles,
    fun other member => most.most other ((mem_candidates_of_sameTables same).mp member)⟩

/-! ### Suggestions -/

/-- The names that resemble a token, with their similarities. -/
def similarAmong (token : String) (names : List String) : List (String × Float) :=
  (names.map fun name => (name, Text.jaroWinkler token.toList name.toList)).filter
    (threshold ≤ ·.2)

theorem mem_similarAmong_iff {names : List String} {scored : String × Float} :
    scored ∈ similarAmong token names ↔ scored.1 ∈ names ∧ ResemblesToken token scored.1 ∧
      scored.2 = Text.jaroWinkler token.toList scored.1.toList := by
  rw [similarAmong, List.mem_filter, List.mem_map, decide_eq_true_iff]
  constructor
  · rintro ⟨⟨name, member, rfl⟩, enough⟩
    exact ⟨member, enough, rfl⟩
  · rintro ⟨member, resembles, score⟩
    refine ⟨⟨scored.1, member, Prod.ext rfl score.symm⟩, ?_⟩
    rw [score]
    exact resembles

theorem isNumber_of_mem_similarAmong {names : List String} :
    ∀ scored ∈ similarAmong token names, IsNumber scored.2 := by
  intro scored member
  obtain ⟨-, resembles, score⟩ := mem_similarAmong_iff.mp member
  rw [score]
  exact (isNumber_of_double_le resembles).2

theorem similarAmong_append (token : String) (names names' : List String) :
    similarAmong token (names ++ names') =
      similarAmong token names ++ similarAmong token names' := by
  rw [similarAmong, List.map_append, List.filter_append, similarAmong, similarAmong]

theorem mostSimilar?_eq_foldl (s : Schema) (token : String) :
    s.mostSimilar? token =
      ((similarAmong token s.selectors ++ similarAmong token (s.aliases.map (·.1))).foldl
        better none).map (·.1) := by
  rw [← similarAmong_append]
  exact mostSimilar?_eq s token

theorem mostSimilar_of_best {best : String × Float}
    (member : best ∈ similarAmong token s.candidates)
    (most : ∀ scored ∈ similarAmong token s.candidates, scored.2 ≤ best.2) :
    s.MostSimilar token best.1 := by
  obtain ⟨isCandidate, resembles, score⟩ := mem_similarAmong_iff.mp member
  refine ⟨isCandidate, resembles, fun other isOther resembles' => ?_⟩
  rw [← score]
  exact most (other, _) (mem_similarAmong_iff.mpr ⟨isOther, resembles', rfl⟩)

theorem mostSimilar?_of_untied (same : s.SameTables s')
    (untied : ∀ a ∈ s.aliases, ∀ b ∈ s.aliases, s.MostSimilar token a.1 →
      s.MostSimilar token b.1 → a.1 = b.1) : s'.mostSimilar? token = s.mostSimilar? token := by
  have perm : (similarAmong token (s.aliases.map (·.1))).Perm
      (similarAmong token (s'.aliases.map (·.1))) :=
    ((same.aliases.map _).map _).filter _
  have selectors : s'.selectors = s.selectors := by
    rw [Schema.selectors, Schema.selectors, same.fields]
  rw [mostSimilar?_eq_foldl, mostSimilar?_eq_foldl, selectors]
  refine foldl_better_append_of_perm ?_ perm ?_
  · rw [← similarAmong_append]
    exact isNumber_of_mem_similarAmong
  · rw [← similarAmong_append]
    intro v member v' member' most most'
    have inAll {scored : String × Float}
        (member : scored ∈ similarAmong token (s.aliases.map (·.1))) :
        scored ∈ similarAmong token s.candidates := by
      rw [candidates, similarAmong_append]
      exact List.mem_append_right _ member
    obtain ⟨a, isAlias, name⟩ := List.mem_map.mp (mem_similarAmong_iff.mp member).1
    obtain ⟨b, isAlias', name'⟩ := List.mem_map.mp (mem_similarAmong_iff.mp member').1
    have first := mostSimilar_of_best (inAll member) most
    have second := mostSimilar_of_best (inAll member') most'
    rw [← name] at first ⊢
    rw [← name'] at second ⊢
    exact untied a isAlias b isAlias' first second

/-- An alias that is most similar is suggested if it comes last. -/
theorem mostSimilar?_of_last {rest : List (String × String)} {last : String × String}
    (order : s.aliases = rest ++ [last]) (most : s.MostSimilar token last.1) :
    s.mostSimilar? token = some last.1 := by
  have names : s.candidates = s.selectors ++ rest.map (·.1) ++ [last.1] := by
    simp [candidates, order]
  have enough : threshold ≤ Text.jaroWinkler token.toList last.1.toList := most.resembles
  have end' : similarAmong token [last.1] =
      [(last.1, Text.jaroWinkler token.toList last.1.toList)] :=
    List.filter_eq_self.mpr (by simpa using enough)
  have all : s.similarTo token = similarAmong token s.candidates := rfl
  rw [mostSimilar?_eq, all, names, similarAmong_append, end', List.foldl_append]
  cases found : (similarAmong token (s.selectors ++ rest.map (·.1))).foldl better none with
  | none => rfl
  | some best =>
      obtain ⟨member, resembles, score⟩ := mem_similarAmong_iff.mp (mem_of_foldl_better found)
      have isCandidate : best.1 ∈ s.candidates := by
        rw [names]
        exact List.mem_append_left _ member
      have below := most.most best.1 isCandidate resembles
      rw [← score] at below
      simp [better, below]

theorem resolve_of_unnamed (noField : s.field? (s.pathOf token) = none)
    (noObject : s.pathOf token ∉ s.objects) :
    s.resolve token = .error (.unknownField token ((s.mostSimilar? token).map .similar)) := by
  simp [resolve, noField, noObject]

theorem resolve_of_untied (same : s.SameTables s') (distinct : (s.aliases.map (·.1)).Nodup)
    (untied : ¬ s.Tied token) : s'.resolve token = s.resolve token := by
  have path := pathOf_of_sameTables same distinct token
  have found := field?_of_sameTables same (s.pathOf token)
  by_cases unnamed : s.field? (s.pathOf token) = none ∧ s.pathOf token ∉ s.objects
  · obtain ⟨noField, noObject⟩ := unnamed
    have suggested : s'.mostSimilar? token = s.mostSimilar? token := by
      refine mostSimilar?_of_untied same fun a member b member' most most' => ?_
      by_contra two
      exact untied ⟨noField, noObject, a, member, b, member', two, most, most'⟩
    have noField' : s'.field? (s'.pathOf token) = none := by rw [path, found, noField]
    have noObject' : s'.pathOf token ∉ s'.objects := by rwa [path, ← same.objects]
    rw [resolve_of_unnamed noField noObject, resolve_of_unnamed noField' noObject', suggested]
  · rw [resolve, resolve, path, found, ← same.objects]
    cases named : s.field? (s.pathOf token) with
    | some f => rfl
    | none =>
        have object : s.objects.contains (s.pathOf token) = true := by
          by_contra noObject
          exact unnamed ⟨named, by simpa using noObject⟩
        simp only [object, if_true]

/-- Of two tied aliases one is not what is suggested, but would be if it came last. -/
theorem exists_resolve_ne (tied : s.Tied token) : ∃ z ∈ s.aliases, ∀ s', s.SameTables s' →
    s'.aliases = s.aliases.erase z ++ [z] → (s.aliases.map (·.1)).Nodup →
      s'.resolve token ≠ s.resolve token := by
  obtain ⟨a, member, b, member', apart, most, most'⟩ := tied.aliases
  -- At least one of the two is not what `s` suggests.
  obtain ⟨z, isAlias, best, other⟩ : ∃ z ∈ s.aliases, s.MostSimilar token z.1 ∧
      s.mostSimilar? token ≠ some z.1 := by
    by_cases first : s.mostSimilar? token = some a.1
    · exact ⟨b, member', most', fun second => apart (Option.some.inj (first.symm.trans second))⟩
    · exact ⟨a, member, most, first⟩
  refine ⟨z, isAlias, fun s' same order distinct equal => other ?_⟩
  have path := pathOf_of_sameTables same distinct token
  have noField : s'.field? (s'.pathOf token) = none := by
    rw [path, field?_of_sameTables same, tied.noField]
  have noObject : s'.pathOf token ∉ s'.objects := by
    rw [path, ← same.objects]
    exact tied.noObject
  have suggested : s'.mostSimilar? token = some z.1 :=
    mostSimilar?_of_last order (best.of_sameTables same)
  rw [resolve_of_unnamed noField noObject, resolve_of_unnamed tied.noField tied.noObject,
    suggested] at equal
  cases found : s.mostSimilar? token with
  | none => simp [found] at equal
  | some name => simpa [found, eq_comm] using equal

end Tokens

/-! ## Every order -/

/-- A schema is the same in every order of the aliases, unless one of two aliases that make no sense
is to be named; and so is what a token resolves to, unless one of two aliases that are most similar
to it is to be suggested. -/
theorem ofDefinition_order_iff {d : SchemaDefinition} (distinct : (d.aliases.map (·.1)).Nodup) :
    ((∀ d', d.Reordered d' → SameResult (ofDefinition d) (ofDefinition d')) ↔ ¬ d.RefusesTwo) ∧
    ∀ s, ofDefinition d = .ok s → ∀ token,
      (∀ d' s', d.Reordered d' → ofDefinition d' = .ok s' → s'.resolve token = s.resolve token) ↔
        ¬ s.Tied token := by
  refine ⟨sameResult_iff distinct, fun s made token => ⟨fun equal tied => ?_, fun untied => ?_⟩⟩
  · obtain ⟨z, member, differs⟩ := exists_resolve_ne tied
    obtain rfl := (ofDefinition_eq_ok_iff.mp made).2
    have reordered : d.Reordered ⟨d.aliases.erase z ++ [z], d.fields⟩ :=
      ⟨rfl, (List.perm_cons_erase member).trans (List.perm_append_singleton z _).symm⟩
    obtain ⟨made', same⟩ := ofDefinition_of_reordered reordered made
    exact differs _ same rfl distinct (equal _ _ reordered made')
  · intro d' s' reordered made'
    obtain ⟨made'', same⟩ := ofDefinition_of_reordered reordered made
    obtain rfl := Except.ok.inj (made''.symm.trans made')
    obtain rfl := (ofDefinition_eq_ok_iff.mp made).2
    exact resolve_of_untied same distinct untied

/-- Aliases that differ in their last character are suggested by their order. -/
theorem ofDefinition_order_iff_status :
    let d : SchemaDefinition := ⟨[("status1", "state"), ("status2", "state")], [.string "state"]⟩
    (d.aliases.map (·.1)).Nodup ∧ ofDefinition d = .ok (unchecked d) ∧
      (∀ d', d.Reordered d' → SameResult (ofDefinition d) (ofDefinition d')) ∧
      ¬ ∀ d' s', d.Reordered d' → ofDefinition d' = .ok s' →
        s'.resolve "status" = (unchecked d).resolve "status" := by
  intro d
  have distinct : (d.aliases.map (·.1)).Nodup := by decide
  have made : ofDefinition d = .ok (unchecked d) := by decide +kernel
  have most : ∀ name ∈ ["status1", "status2"], (unchecked d).MostSimilar "status" name := by
    have all : (unchecked d).candidates = ["state", "status1", "status2"] := by decide +kernel
    have scores : ∀ name ∈ ["status1", "status2"],
        threshold ≤ Text.jaroWinkler "status".toList name.toList ∧
        ∀ other ∈ (unchecked d).candidates, Text.jaroWinkler "status".toList other.toList ≤
          Text.jaroWinkler "status".toList name.toList := by
      decide +kernel
    intro name isAlias
    obtain ⟨enough, best⟩ := scores name isAlias
    refine ⟨?_, enough, fun other member _ => best other member⟩
    rw [all]
    exact List.mem_cons_of_mem _ isAlias
  have tied : (unchecked d).Tied "status" := by
    refine ⟨by decide +kernel, by decide +kernel, ("status1", "state"), List.mem_cons_self,
      ("status2", "state"), List.mem_cons_of_mem _ List.mem_cons_self, by decide, ?_, ?_⟩
    · exact most _ List.mem_cons_self
    · exact most _ (List.mem_cons_of_mem _ List.mem_cons_self)
  obtain ⟨sameIff, resolvedIff⟩ := ofDefinition_order_iff distinct
  refine ⟨distinct, made, sameIff.mpr fun two => ?_, fun equal => ?_⟩
  · obtain ⟨-, a, member, -, -, -, refused, -⟩ := refusesTwo_iff.mp two
    exact refused ((valid_iff.mp (ofDefinition_eq_ok_iff.mp made).1).2 a member)
  · exact (resolvedIff _ made "status").mp equal tied

/-- Two aliases lead to no field: the one in front is named. -/
theorem alias_named_by_order :
    let sound : List (String × String) :=
      [("a", "state"), ("b", "state"), ("c", "state"), ("d", "state"), ("e", "state")]
    let d : SchemaDefinition := ⟨sound ++ [("f", "status"), ("g", "status")], [.string "state"]⟩
    let d' : SchemaDefinition := ⟨sound ++ [("g", "status"), ("f", "status")], [.string "state"]⟩
    (d.aliases.map (·.1)).Nodup ∧ d.Reordered d' ∧
      ofDefinition d = .error (.aliasWithoutTarget "f" "status") ∧
      ofDefinition d' = .error (.aliasWithoutTarget "g" "status") ∧
      ¬ SameResult (ofDefinition d) (ofDefinition d') := by
  intro sound d d'
  have made : ofDefinition d = .error (.aliasWithoutTarget "f" "status") := by decide +kernel
  have made' : ofDefinition d' = .error (.aliasWithoutTarget "g" "status") := by decide +kernel
  refine ⟨by decide, ⟨rfl, by decide⟩, made, made', fun same => ?_⟩
  rw [made, made'] at same
  exact absurd (eq_of_sameResult (.refused _) same) (by decide)

end FilterQuery.Schema
