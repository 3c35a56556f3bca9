/-
# FilterQuery.Proofs.Search.Image -- translation keeps every node

Expressions have exactly the clauses that are their images (`clauseOf_eq_ok_iff_image`), by one
equation for comparisons (`comparisonClause_eq_ok_iff_image`) and one for combinations
(`image_combination_iff`).  The fields of an image are those of the expression, one by one
(`finds_of_image`), and since either counts its fields (`Clause.fields_length`,
`Expression.fields_length`) there are as many questions as comparisons.

For a filter text the comparisons are those that are written in it.
-/
import FilterQuery.Proofs.Search.Meaning
import FilterQuery.Proofs.Search.Written

namespace FilterQuery

/-! ## Counting -/

namespace Clause

mutual
theorem fields_length : (c : Clause) → c.fields.length = c.leafCount
  | .term .. => rfl
  | .range .. => rfl
  | .group _ children => fieldsAll_length children

theorem fieldsAll_length : (cs : List Clause) → (fieldsAll cs).length = leafCountAll cs
  | [] => rfl
  | c :: cs => by
      rw [fieldsAll, leafCountAll, List.length_append, fields_length c, fieldsAll_length cs]
end

end Clause

namespace Expression

mutual
theorem map_field_comparisons : (e : Expression) → e.comparisons.map Comparison.field = e.fields
  | .comparison .. => rfl
  | .combination _ parts => map_field_comparisonsAll parts

theorem map_field_comparisonsAll : (es : List Expression) →
    (comparisonsAll es).map Comparison.field = fieldsAll es
  | [] => rfl
  | e :: es => by
      rw [comparisonsAll, fieldsAll, List.map_append, map_field_comparisons e,
        map_field_comparisonsAll es]
end

end Expression

namespace QueryBuilder

variable {b : QueryBuilder} {q : Clause}

/-! ## Nodes -/

theorem image_of_comparison {token raw : String} {op : Comparator} {field : Field} {value : Value}
    (resolved : b.schema.resolve token = .ok field)
    (read : Value.ofRaw b.settings field op raw = .ok value) :
    b.Image (.comparison token op raw) (.ofComparison field.indexPath op value) := by
  cases op with
  | equal => exact .equal resolved read
  | notEqual => exact .notEqual resolved read
  | greater => exact .ordering .greater resolved read
  | greaterOrEqual => exact .ordering .greaterOrEqual resolved read
  | less => exact .ordering .less resolved read
  | lessOrEqual => exact .ordering .lessOrEqual resolved read

theorem comparisonClause_eq_ok_iff_image {token raw : String} {op : Comparator} :
    b.comparisonClause token op raw = .ok q ↔ b.Image (.comparison token op raw) q := by
  rw [comparisonClause_eq_ok_iff]
  constructor
  · rintro ⟨field, value, resolved, read, rfl⟩
    exact image_of_comparison resolved read
  · intro image
    cases image with
    | equal resolved read => exact ⟨_, _, resolved, read, rfl⟩
    | notEqual resolved read => exact ⟨_, _, resolved, read, rfl⟩
    | ordering bound resolved read =>
        refine ⟨_, _, resolved, read, ?_⟩
        cases bound <;> rfl

theorem image_combination_iff {kind : Connective} {parts : List Expression} :
    b.Image (.combination kind parts) q ↔ 2 ≤ parts.length ∧
      ∃ clauses, List.Forall₂ b.Image parts clauses ∧ q = .group kind.mode clauses := by
  constructor
  · intro image
    cases image with
    | all enough images => exact ⟨enough, _, images, rfl⟩
    | any enough images => exact ⟨enough, _, images, rfl⟩
  · rintro ⟨enough, clauses, images, rfl⟩
    cases kind with
    | all => exact .all enough images
    | any => exact .any enough images

mutual
/-- An expression has the clauses that are its images, and no others. -/
theorem clauseOf_eq_ok_iff_image : (e : Expression) → {q : Clause} →
    (b.clauseOf e = .ok q ↔ b.Image e q)
  | .comparison token op raw, q => by
      rw [clauseOf]
      exact comparisonClause_eq_ok_iff_image
  | .combination kind parts, q => by
      rw [clauseOf_combination_eq_ok_iff, image_combination_iff]
      simp only [clausesOf_eq_ok_iff_images parts]

theorem clausesOf_eq_ok_iff_images : (es : List Expression) → {cs : List Clause} →
    (b.clausesOf es = .ok cs ↔ List.Forall₂ b.Image es cs)
  | [], cs => by simp [clausesOf, eq_comm]
  | e :: es, cs => by
      simp only [clausesOf_cons_eq_ok_iff, List.forall₂_cons_left_iff, clauseOf_eq_ok_iff_image e,
        clausesOf_eq_ok_iff_images es]
end

/-! ## Fields -/

mutual
/-- An image asks for the fields that its expression names, in their order. -/
theorem finds_of_image : (e : Expression) → {q : Clause} → b.Image e q →
    List.Forall₂ b.Finds e.fields q.fields
  | .comparison token op raw, q, image => by
      cases image with
      | equal resolved _ => exact .cons ⟨_, resolved, rfl⟩ .nil
      | notEqual resolved _ => exact .cons ⟨_, resolved, rfl⟩ .nil
      | ordering _ resolved _ => exact .cons ⟨_, resolved, rfl⟩ .nil
  | .combination kind parts, q, image => by
      obtain ⟨-, clauses, images, rfl⟩ := image_combination_iff.mp image
      exact finds_of_images parts images

theorem finds_of_images : (es : List Expression) → {cs : List Clause} →
    List.Forall₂ b.Image es cs → List.Forall₂ b.Finds (Expression.fieldsAll es) (Clause.fieldsAll cs)
  | [], _, .nil => .nil
  | e :: es, _, .cons image images =>
      List.rel_append (finds_of_image e image) (finds_of_images es images)
end

theorem leafCount_of_image {e : Expression} (image : b.Image e q) : q.leafCount = e.count := by
  have found := finds_of_image e image
  calc q.leafCount = q.fields.length := q.fields_length.symm
    _ = e.fields.length := found.length_eq.symm
    _ = e.count := e.fields_length

theorem keeps_of_image {e : Expression} (image : b.Image e q) : b.Keeps e q where
  image := image
  counted := leafCount_of_image image
  listed := e.fields_length
  found := finds_of_image e image

/-- The comparisons of an expression are what is written in each text that stands for it. -/
theorem keepsWritten_of_image {limit : Nat} {filter : String} {e : Expression}
    (derives : Expression.Derives limit filter.toList e) (image : b.Image e q) :
    b.KeepsWritten filter q := by
  have written := Expression.written_of_derives derives
  have fields := e.map_field_comparisons
  refine ⟨⟨e.comparisons, written⟩, ?_, ?_⟩
  · intro cs other
    rw [← written.unique other, leafCount_of_image image, ← e.fields_length, ← fields,
      List.length_map]
  · intro cs other
    rw [← written.unique other, fields]
    exact finds_of_image e image

/-- Whatever is translated keeps each of its conditions once and in its place, and so does the query
of a filter keep the comparisons that are written in it. -/
theorem query_keepsConditions :
    (∀ (t t' : Translator) (e : Expression) (q : Clause),
      t.accept e = .ok t' → t'.query = .ok q → t.builder.Keeps e q) ∧
    ∀ (b : QueryBuilder) (filter : String) (q : Clause),
      b.query filter = .ok q → b.KeepsWritten filter q := by
  constructor
  · intro t t' e q accepted kept
    obtain ⟨_, clause, translated, rfl⟩ := accept_eq_ok_iff.mp accepted
    cases kept
    exact keeps_of_image ((clauseOf_eq_ok_iff_image e).mp translated)
  · intro b filter q made
    cases read : Expression.parse b.settings.groupLimit filter with
    | error fault =>
        rw [query_of_parse_error read] at made
        cases made
    | ok e =>
        rw [query_of_parse_ok read] at made
        exact keepsWritten_of_image (Expression.parse_eq_ok_iff.mp read)
          ((clauseOf_eq_ok_iff_image e).mp made)

/-- Two negations of one field stay two, and the group in front of them stays in front. -/
theorem query_keepsConditions_group :
    let b : QueryBuilder :=
      .ofSchema ⟨[⟨"a", "doc.a", .string, true, true⟩, ⟨"n", "doc.n", .number .integer, true, true⟩],
        [], []⟩
    let e : Expression := .combination .all [.combination .any
      [.comparison "a" .notEqual "x", .comparison "n" .greater "1"], .comparison "a" .notEqual "x"]
    let q : Clause := .group .must [.group .should [.group .mustNot [.term "doc.a" (.text "x")],
      .range "doc.n" .greater (.integer 1)], .group .mustNot [.term "doc.a" (.text "x")]]
    b.translator.accept e = .ok ⟨b, some q⟩ ∧ Translator.query ⟨b, some q⟩ = .ok q ∧
      b.Keeps e q ∧ q.leafCount = 3 ∧ e.fields = ["a", "n", "a"] ∧
      q.fields = ["doc.a", "doc.n", "doc.a"] ∧
      b.query "(a!=x,n>1);a!=x" = .ok q ∧ b.KeepsWritten "(a!=x,n>1);a!=x" q := by
  intro b e q
  have parsed : Expression.parse 32 "(a!=x,n>1);a!=x" = .ok (.combination .all [.combination .any
      [.comparison "a" .notEqual "x", .comparison "n" .greater "1"],
      .comparison "a" .notEqual "x"]) := by
    decide +kernel
  have accepted : b.translator.accept e = .ok ⟨b, some q⟩ := rfl
  have made : b.query "(a!=x,n>1);a!=x" = .ok q := by
    rw [query_of_parse_ok (b := b) parsed]
    rfl
  obtain ⟨translated, asked⟩ := query_keepsConditions
  exact ⟨accepted, rfl, translated _ _ e q accepted rfl, rfl, rfl, rfl, made, asked b _ q made⟩

end QueryBuilder

end FilterQuery
