/-
# FilterQuery.Proofs.Clause.Outline -- a query shows its clause up to the kinds of values

The outline of a clause is read off its query (`ofQuery?_toElasticsearch`), so clauses with one
query have one outline.  Clauses with one outline are alike (`outline_eq_iff_alike`), and alike
clauses have one query, since a query takes nothing else from its clause
(`toElasticsearch_of_alike`).

A term is the only leaf that is rendered in two ways (`toElasticsearch_term`).
-/
import FilterQuery.Clause.Outline

namespace FilterQuery.Clause

/-! ## Recovery -/

theorem toElasticsearch_term (field : String) (value : Value) :
    toElasticsearch (.term field value) =
      if value.isPattern then
        .object [("wildcard", .object [(field, .object [("value", value.toJson)])])]
      else .object [("term", .object [(field, value.toJson)])] := by
  cases value <;> rfl

theorem ofQuery?_term (field : String) (value : Value) :
    Outline.ofQuery? (toElasticsearch (.term field value)) =
      some (outline (.term field value)) := by
  rw [toElasticsearch_term, outline]
  cases value.isPattern <;> rfl

theorem ofQuery?_range (field : String) (bound : Bound) (value : Value) :
    Outline.ofQuery? (toElasticsearch (.range field bound value)) =
      some (outline (.range field bound value)) := by
  rw [toElasticsearch, Outline.ofQuery?, Bound.ofKeyword?_keyword]
  rfl

mutual
/-- The outline of a clause is read off its query. -/
theorem ofQuery?_toElasticsearch : (c : Clause) →
    Outline.ofQuery? c.toElasticsearch = some c.outline
  | .term field value => ofQuery?_term field value
  | .range field bound value => ofQuery?_range field bound value
  | .group mode children => by
      rw [toElasticsearch, Outline.ofQuery?, Mode.ofKeyword?_keyword,
        ofQueries?_toElasticsearchAll children]
      rfl

theorem ofQueries?_toElasticsearchAll : (cs : List Clause) →
    Outline.ofQueries? (toElasticsearchAll cs) = some (outlines cs)
  | [] => rfl
  | c :: cs => by
      rw [toElasticsearchAll, Outline.ofQueries?, ofQuery?_toElasticsearch c,
        ofQueries?_toElasticsearchAll cs]
      rfl
end

/-! ## Alike clauses -/

section Alike

variable {field field' : String} {bound bound' : Bound} {mode mode' : Mode} {value value' : Value}
  {children children' : List Clause}

theorem alike_term_iff :
    Alike (.term field value) (.term field' value') ↔
      value.isPattern = value'.isPattern ∧ field = field' ∧ value.toJson = value'.toJson := by
  constructor
  · rintro (⟨pattern, json⟩ | _ | _)
    exact ⟨pattern, rfl, json⟩
  · rintro ⟨pattern, rfl, json⟩
    exact .term pattern json

theorem alike_range_iff :
    Alike (.range field bound value) (.range field' bound' value') ↔
      field = field' ∧ bound = bound' ∧ value.toJson = value'.toJson := by
  constructor
  · rintro (_ | json | _)
    exact ⟨rfl, rfl, json⟩
  · rintro ⟨rfl, rfl, json⟩
    exact .range json

theorem alike_group_iff :
    Alike (.group mode children) (.group mode' children') ↔
      mode = mode' ∧ List.Forall₂ Alike children children' := by
  constructor
  · rintro (_ | _ | all)
    exact ⟨rfl, all⟩
  · rintro ⟨rfl, all⟩
    exact .group all

end Alike

mutual
/-- Clauses have one outline exactly if they are alike. -/
theorem outline_eq_iff_alike : (c c' : Clause) → (c.outline = c'.outline ↔ c.Alike c')
  | .term .., .term .. => by rw [outline, outline, Outline.term.injEq, alike_term_iff]
  | .range .., .range .. => by rw [outline, outline, Outline.range.injEq, alike_range_iff]
  | .group _ children, .group _ children' => by
      rw [outline, outline, Outline.group.injEq, alike_group_iff,
        outlines_eq_iff_alike children children']
  | .term .., .range .. | .term .., .group .. | .range .., .term .. | .range .., .group ..
  | .group .., .term .. | .group .., .range .. => by
      rw [outline, outline]
      exact iff_of_false nofun nofun

theorem outlines_eq_iff_alike : (cs cs' : List Clause) →
    (outlines cs = outlines cs' ↔ List.Forall₂ Alike cs cs')
  | [], [] => iff_of_true rfl .nil
  | c :: cs, c' :: cs' => by
      rw [outlines, outlines, List.cons.injEq, List.forall₂_cons, outline_eq_iff_alike c c',
        outlines_eq_iff_alike cs cs']
  | [], _ :: _ | _ :: _, [] => by
      rw [outlines, outlines]
      exact iff_of_false nofun nofun
end

mutual
/-- Clauses that are alike have one query. -/
theorem toElasticsearch_of_alike : (c : Clause) → {c' : Clause} → c.Alike c' →
    c.toElasticsearch = c'.toElasticsearch
  | .term field value, _, .term pattern json => by
      rw [toElasticsearch_term, toElasticsearch_term, pattern, json]
  | .range field bound value, _, .range json => by rw [toElasticsearch, toElasticsearch, json]
  | .group mode children, _, .group all => by
      rw [toElasticsearch, toElasticsearch, toElasticsearchAll_of_alike children all]

theorem toElasticsearchAll_of_alike : (cs : List Clause) → {cs' : List Clause} →
    List.Forall₂ Alike cs cs' → toElasticsearchAll cs = toElasticsearchAll cs'
  | [], _, .nil => rfl
  | c :: cs, _, .cons alike all => by
      rw [toElasticsearchAll, toElasticsearchAll, toElasticsearch_of_alike c alike,
        toElasticsearchAll_of_alike cs all]
end

/-- **A query shows its clause up to the kinds of values.**  Clauses have one query exactly if they
are alike, and the query of a clause gives its outline, which is what alike clauses share. -/
theorem toElasticsearch_faithful :
    (∀ c c' : Clause, c.toElasticsearch = c'.toElasticsearch ↔ c.Alike c') ∧
      (∀ c : Clause, Outline.ofQuery? c.toElasticsearch = some c.outline) ∧
      ∀ c c' : Clause, c.outline = c'.outline ↔ c.Alike c' := by
  refine ⟨fun c c' => ⟨fun same => ?_, toElasticsearch_of_alike c⟩, ofQuery?_toElasticsearch,
    outline_eq_iff_alike⟩
  have outlines : some c.outline = some c'.outline :=
    calc some c.outline = Outline.ofQuery? c.toElasticsearch := (ofQuery?_toElasticsearch c).symm
      _ = Outline.ofQuery? c'.toElasticsearch := by rw [same]
      _ = some c'.outline := ofQuery?_toElasticsearch c'
  exact (outline_eq_iff_alike c c').mp (Option.some.inj outlines)

/-- Fields may be called by keywords. -/
example : Outline.ofQuery? (toElasticsearch (.group .must [.term "bool" (.text "must"),
    .range "gt" .less (.text "value"), .group .mustNot []])) =
    some (.group .must [.term false "bool" (.text "must"), .range "gt" .less (.text "value"),
      .group .mustNot []]) := rfl

end FilterQuery.Clause
