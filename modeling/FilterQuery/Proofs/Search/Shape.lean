/-
# FilterQuery.Proofs.Search.Shape -- what is read is well formed, and only so high

The height of an expression is the number of parentheses that it nests as a part
(`height_eq_parens`), and a group of a text makes two of these at most (`Derives.height_le`).
There is a text for each limit that makes them all: a conjunction in a disjunction, in each of the
groups that the limit allows (`exists_derives_of_height`).

A clause has the height of its expression (`height_of_clauseOf`).
-/
import FilterQuery.Proofs.Printing.Nesting
import FilterQuery.Proofs.Search.Translation
import FilterQuery.Search.Shape

namespace FilterQuery

namespace Expression

/-! ## Nodes and fields -/

theorem nodesAll_eq (es : List Expression) : nodesAll es = es.flatMap nodes := by
  induction es with
  | nil => rfl
  | cons e es ih => simp [nodesAll, ih]

theorem WellFormed.joins {e : Expression} (wellFormed : WellFormed e) :
    ∀ kind parts, .combination kind parts ∈ e.nodes → 2 ≤ parts.length := by
  induction wellFormed with
  | comparison =>
      intro kind parts member
      simp [nodes] at member
  | @combination kind' parts' atLeastTwo _ ih =>
      intro kind parts member
      rw [nodes, nodesAll_eq, List.mem_cons, List.mem_flatMap] at member
      rcases member with same | ⟨e, inParts, member⟩
      · cases same
        exact atLeastTwo
      · exact ih e inParts kind parts member

theorem WellFormed.selects {e : Expression} (wellFormed : WellFormed e) :
    ∀ field ∈ e.fields, SelectorText field.toList := by
  induction wellFormed with
  | comparison isSelector =>
      intro field member
      obtain rfl := List.mem_singleton.mp member
      exact isSelector
  | combination _ _ ih =>
      intro field member
      rw [fields, fieldsAll_eq, List.mem_flatMap] at member
      obtain ⟨e, inParts, member⟩ := member
      exact ih e inParts field member

/-! ## Heights -/

mutual
theorem height_eq_parens : (e : Expression) → e.height = e.parens
  | .comparison .. => rfl
  | .combination _ parts => by
      rw [height, parens, depth, heightAll_eq_depthAll parts]

theorem heightAll_eq_depthAll : (es : List Expression) → heightAll es = depthAll es
  | [] => rfl
  | e :: es => by
      rw [heightAll, depthAll_cons, height_eq_parens e, heightAll_eq_depthAll es]
end

theorem Derives.height_le {limit : Nat} {s : List Char} {e : Expression} (h : Derives limit s e) :
    e.height ≤ 2 * (limit + 1) := by
  rw [height_eq_parens]
  exact DisjunctionText.parens_le h OperandText.parens_le

theorem exists_flat_comparison :
    ∃ s e, Padded ComparisonText s e ∧ e.height = 0 := by
  have isSelector : SelectorText "a".toList := .name (by decide)
  exact ⟨_, _, .mk blanks_nil (comparisonText_chars .equal "1" isSelector) blanks_nil, rfl⟩

/-- Behind an operand, one comparison for each connective puts it two combinations further down. -/
theorem exists_disjunction_of_height {levels : Nat} {s : List Char} {e : Expression}
    (operand : OperandText levels s e) :
    ∃ text e', DisjunctionText (OperandText levels) text e' ∧ e'.height = e.height + 2 := by
  obtain ⟨t, comparison, padded, flat⟩ := exists_flat_comparison
  have other := operandText_of_comparison levels padded
  have conjunction : RunText .all (OperandText levels) _ _ :=
    .several (.more operand (.one other)) (Nat.le_refl 2)
  have disjunction : DisjunctionText (OperandText levels) _ _ :=
    .several (.more conjunction (.one (.single other))) (Nat.le_refl 2)
  refine ⟨_, _, disjunction, ?_⟩
  simp only [height, heightAll, flat]
  omega

/-- Each level of groups can be used for two combinations. -/
theorem exists_operand_of_height (levels : Nat) :
    ∃ s e, OperandText levels s e ∧ e.height = 2 * levels := by
  induction levels with
  | zero => exact exists_flat_comparison
  | succ levels ih =>
      obtain ⟨s, e, operand, height⟩ := ih
      obtain ⟨text, e', disjunction, higher⟩ := exists_disjunction_of_height operand
      have group := Padded.mk blanks_nil (GroupText.mk disjunction) blanks_nil
      refine ⟨_, e', .inr group, ?_⟩
      rw [higher, height, Nat.mul_succ]

theorem exists_derives_of_height (limit : Nat) :
    ∃ s e, Derives limit s e ∧ e.height = 2 * (limit + 1) := by
  obtain ⟨s, e, operand, height⟩ := exists_operand_of_height limit
  obtain ⟨text, e', disjunction, higher⟩ := exists_disjunction_of_height operand
  exact ⟨text, e', disjunction, by rw [higher, height, Nat.mul_succ]⟩

end Expression

/-! ## Clauses -/

namespace QueryBuilder

variable {b : QueryBuilder}

theorem height_ofComparison (field : String) (op : Comparator) (value : Value) :
    (Clause.ofComparison field op value).height = 0 := by
  cases op <;> rfl

theorem height_group (kind : Connective) (children : List Clause) :
    (Clause.group kind.mode children).height = 1 + Clause.heightAll children := by
  cases kind <;> rfl

mutual
theorem height_of_clauseOf : (e : Expression) → (c : Clause) → b.clauseOf e = .ok c →
    c.height = e.height
  | .comparison token op raw, c, made => by
      rw [clauseOf] at made
      obtain ⟨field, value, -, -, rfl⟩ := comparisonClause_eq_ok_iff.mp made
      exact height_ofComparison field.indexPath op value
  | .combination kind parts, c, made => by
      obtain ⟨-, children, madeParts, rfl⟩ := clauseOf_combination_eq_ok_iff.mp made
      rw [height_group, Expression.height, heightAll_of_clausesOf parts children madeParts]

theorem heightAll_of_clausesOf : (es : List Expression) → (cs : List Clause) →
    b.clausesOf es = .ok cs → Clause.heightAll cs = Expression.heightAll es
  | [], cs, made => by
      cases made
      rfl
  | e :: es, cs, made => by
      obtain ⟨first, others, madeFirst, madeOthers, rfl⟩ := clausesOf_cons_eq_ok_iff.mp made
      rw [Clause.heightAll, Expression.heightAll, height_of_clauseOf e first madeFirst,
        heightAll_of_clausesOf es others madeOthers]
end

end QueryBuilder

/-! ## What is read -/

namespace Expression

theorem shaped_of_derives {limit : Nat} {s : List Char} {e : Expression}
    (derives : Derives limit s e) : Shaped limit e where
  joins := derives.wellFormed.joins
  selects := derives.wellFormed.selects
  height := derives.height_le
  printed := by
    rw [print, String.toList_ofList]
    exact derives_chars derives.wellFormed derives.depth_le
  translated b c made := by
    rw [QueryBuilder.height_of_clauseOf e c made]
    exact derives.height_le

/-- What is read is well formed and no higher than the limit of groups lets it be, and under each
limit there is a text that is read as an expression of the largest height. -/
theorem parse_shaped (limit : Nat) :
    (∀ text e, parse limit text = .ok e → Shaped limit e) ∧
    ∃ text e, parse limit text = .ok e ∧ e.height = 2 * (limit + 1) := by
  constructor
  · intro text e read
    exact shaped_of_derives (parse_eq_ok_iff.mp read)
  · obtain ⟨s, e, derives, height⟩ := exists_derives_of_height limit
    refine ⟨String.ofList s, e, ?_, height⟩
    rw [parse_eq_ok_iff, String.toList_ofList]
    exact derives

/-- Redundant groups add nothing to the height, and a group with both connectives adds two. -/
theorem parse_shaped_two_groups :
    ∃ e, parse 2 "((a==1;b==2,c==3));d==4,((e==5))" = .ok e ∧ e.height = 4 ∧ Shaped 2 e := by
  have read : parse 2 "((a==1;b==2,c==3));d==4,((e==5))" = .ok (.combination .any
      [.combination .all [.combination .any
        [.combination .all [.comparison "a" .equal "1", .comparison "b" .equal "2"],
          .comparison "c" .equal "3"], .comparison "d" .equal "4"],
        .comparison "e" .equal "5"]) := by
    decide +kernel
  exact ⟨_, read, rfl, (parse_shaped 2).1 _ _ read⟩

end Expression

end FilterQuery
