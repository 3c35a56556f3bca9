/-
# FilterQuery.Proofs.Search.Typing -- the queries of filters make sense

Every clause that a filter is turned into makes sense for the schema
(`typed_of_clauseOf`): resolution finds a field that can be searched, the reading of the
text gives a value that this field takes, and translation counts the parts of a
combination.

That a clause makes sense is all that its JSON needs (`renders_of_typed`).
-/
import FilterQuery.Proofs.Schema.Resolution
import FilterQuery.Proofs.Search.Meaning
import FilterQuery.Proofs.Value.Typing
import FilterQuery.Search.Typing

namespace FilterQuery

variable {b : QueryBuilder} {s : Schema} {field : Field} {value : Value}

/-! ## From filters to clauses -/

theorem typed_ofComparison {token raw : String} {op : Comparator}
    (resolved : b.schema.resolve token = .ok field)
    (read : Value.ofRaw b.settings field op raw = .ok value) :
    (Clause.ofComparison field.indexPath op value).Typed b.schema := by
  obtain ⟨found, searchable⟩ := Schema.resolve_eq_ok_iff.mp resolved
  have known := (Schema.mem_of_field? found).1
  have takes := Value.takes_of_ofRaw read
  have ordered := (Value.ofRaw_eq_ok_iff.mp read).2
  have term : (Clause.term field.indexPath value).Typed b.schema :=
    .term field value known searchable takes
  unfold Clause.ofComparison
  cases side : Bound.ofComparator? op with
  | some bound =>
      have ordering : op.isOrdering = true := by
        rw [← Bound.isSome_ofComparator?, side]
        rfl
      exact .range field bound value known searchable takes (ordered ordering)
  | none =>
      by_cases negated : op = .notEqual
      · simp only [negated, if_pos]
        exact .excluded _ value term
      · simp only [negated, if_false]
        exact term

mutual
/-- The clause of an expression makes sense. -/
theorem typed_of_clauseOf : (e : Expression) → {c : Clause} → b.clauseOf e = .ok c →
    c.Typed b.schema
  | .comparison token op raw, c, h => by
      rw [QueryBuilder.clauseOf, QueryBuilder.comparisonClause_eq_ok_iff] at h
      obtain ⟨field, value, resolved, read, rfl⟩ := h
      exact typed_ofComparison resolved read
  | .combination kind parts, c, h => by
      obtain ⟨enough, cs, translated, rfl⟩ := QueryBuilder.clauseOf_combination_eq_ok_iff.mp h
      have includes : kind.mode ≠ .mustNot := by cases kind <;> simp [Connective.mode]
      have same := (QueryBuilder.clausesOf_eq_ok_iff.mp translated).length_eq
      exact .group kind.mode cs includes (same ▸ enough) (typed_of_clausesOf parts translated)

theorem typed_of_clausesOf : (es : List Expression) → {cs : List Clause} →
    b.clausesOf es = .ok cs → ∀ c ∈ cs, c.Typed b.schema
  | [], cs, h => by
      obtain rfl : [] = cs := Except.ok.inj h
      intro c member
      cases member
  | e :: es, cs, h => by
      obtain ⟨first, others, here, behind, rfl⟩ := QueryBuilder.clausesOf_cons_eq_ok_iff.mp h
      rw [List.forall_mem_cons]
      exact ⟨typed_of_clauseOf e here, typed_of_clausesOf es behind⟩
end

/-! ## From clauses to queries -/

theorem containsNull_toJson {kind : FieldKind} {wildcards : Bool}
    (takes : kind.Takes wildcards value) : value.toJson.containsNull = false := by
  cases takes with
  | decimal x finite => simp [Value.toJson, finite, Json.containsNull]
  | text | pattern | integer | whole | size | boolean | date | member => rfl

theorem isPattern_of_isOrdered (ordered : value.isOrdered = true) : value.isPattern = false := by
  cases value with
  | pattern p => cases ordered
  | text | integer | float | boolean | date | member => rfl

theorem renders_term (takes : field.Takes value) (path : String) :
    (Clause.term path value).toElasticsearch.Renders (.term path value) := by
  have noNull := containsNull_toJson takes
  cases value with
  | pattern p => exact ⟨rfl, _, rfl, .cons (.wildcard path p) .nil⟩
  | text | integer | float | boolean | date | member =>
      refine ⟨?_, _, rfl, .cons (.term path _ rfl) .nil⟩
      simp [Clause.toElasticsearch, Json.containsNull, Json.entriesContainNull, noNull]

theorem renders_range (takes : field.Takes value) (ordered : value.isOrdered = true)
    (path : String) (bound : Bound) :
    (Clause.range path bound value).toElasticsearch.Renders (.range path bound value) := by
  constructor
  · simp [Clause.toElasticsearch, Json.containsNull, Json.entriesContainNull,
      containsNull_toJson takes]
  · have asked : (Clause.range path bound value).toElasticsearch.leaves? =
        some [.range path bound.keyword value.toJson] := by
      cases bound <;> rfl
    exact ⟨_, asked, .cons (.range path bound value (isPattern_of_isOrdered ordered)) .nil⟩

theorem noNull_of_all {cs : List Clause} (all : ∀ c ∈ cs, c.toElasticsearch.Renders c) :
    Json.itemsContainNull (Clause.toElasticsearchAll cs) = false := by
  induction cs with
  | nil => rfl
  | cons c cs ih =>
      obtain ⟨here, behind⟩ := List.forall_mem_cons.mp all
      rw [Clause.toElasticsearchAll, Json.itemsContainNull, here.noNull, ih behind]
      rfl

theorem leaves_of_all {cs : List Clause} (all : ∀ c ∈ cs, c.toElasticsearch.Renders c) :
    ∃ leaves, Json.leavesAll? (Clause.toElasticsearchAll cs) = some leaves ∧
      List.Forall₂ Leaf.Renders leaves (Clause.leavesAll cs) := by
  induction cs with
  | nil => exact ⟨[], rfl, .nil⟩
  | cons c cs ih =>
      obtain ⟨here, behind⟩ := List.forall_mem_cons.mp all
      obtain ⟨first, asked, renders⟩ := here.leaves
      obtain ⟨others, askedBehind, rendersBehind⟩ := ih behind
      refine ⟨first ++ others, ?_, List.rel_append renders rendersBehind⟩
      rw [Clause.toElasticsearchAll, Json.leavesAll?, asked, askedBehind]
      rfl

theorem renders_group {cs : List Clause} (all : ∀ c ∈ cs, c.toElasticsearch.Renders c)
    (mode : Mode) : (Clause.group mode cs).toElasticsearch.Renders (.group mode cs) := by
  constructor
  · simp [Clause.toElasticsearch, Json.containsNull, Json.entriesContainNull, noNull_of_all all]
  · have asked : (Clause.group mode cs).toElasticsearch.leaves? =
        Json.leavesAll? (Clause.toElasticsearchAll cs) := by
      cases mode <;> rfl
    rw [asked]
    exact leaves_of_all all

/-- A clause that makes sense is rendered as a query. -/
theorem renders_of_typed {c : Clause} (typed : c.Typed s) : c.toElasticsearch.Renders c := by
  induction typed with
  | term field value known searchable takes => exact renders_term takes field.indexPath
  | range field bound value known searchable takes ordered =>
      exact renders_range takes ordered field.indexPath bound
  | excluded field value typed ih =>
      exact renders_group (List.forall_mem_singleton.mpr ih) .mustNot
  | group mode children includes atLeastTwo typed ih => exact renders_group ih mode

/-! ## Queries -/

/-- The clause of a filter text makes sense for the schema, and it is rendered as it is meant. -/
theorem query_typed {filter : String} {q : Clause} (made : b.query filter = .ok q) :
    q.Typed b.schema ∧ ∃ json, b.elasticsearchQuery filter = .ok json ∧ json.Renders q := by
  obtain ⟨e, t, _, accepted, kept⟩ := query_eq_ok_iff.mp made
  obtain ⟨_, clause, translated, rfl⟩ := accept_eq_ok_iff.mp accepted
  obtain rfl : clause = q := Except.ok.inj kept
  have typed : clause.Typed b.schema := typed_of_clauseOf e translated
  refine ⟨typed, clause.toElasticsearch, ?_, renders_of_typed typed⟩
  rw [QueryBuilder.elasticsearchQuery, made]
  rfl

/-- A pattern and a size. -/
theorem query_typed_size :
    let b : QueryBuilder := .ofSchema ⟨[⟨"name", "doc.name", .string, true, true⟩,
      ⟨"size", "doc.size", .number .bytes, true, true⟩], [], []⟩
    let q : Clause := .group .must [.term "doc.name" (.pattern "a*"),
      .range "doc.size" .greaterOrEqual (.integer 1000)]
    b.query "name==a*;size>=1kB" = .ok q ∧ q.Typed b.schema ∧
      ∃ json, b.elasticsearchQuery "name==a*;size>=1kB" = .ok json ∧ json.Renders q := by
  intro b q
  have parsed : Expression.parse 32 "name==a*;size>=1kB" = .ok (.combination .all
      [.comparison "name" .equal "a*", .comparison "size" .greaterOrEqual "1kB"]) := by
    decide +kernel
  have read : b.parse "name==a*;size>=1kB" = .ok (.combination .all
      [.comparison "name" .equal "a*", .comparison "size" .greaterOrEqual "1kB"]) := by
    rw [QueryBuilder.parse, show b.settings.groupLimit = 32 from rfl, parsed]
  have made : b.query "name==a*;size>=1kB" = .ok q :=
    query_eq_ok_iff.mpr ⟨_, ⟨b, some q⟩, read, rfl, rfl⟩
  exact ⟨made, query_typed made⟩

end FilterQuery
