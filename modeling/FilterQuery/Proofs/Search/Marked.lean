/-
# FilterQuery.Proofs.Search.Marked -- every marker that settings allow can be used

No blank and no character that has a meaning of its own in a filter is allowed as the marker
(`Settings.allows_of_check`).  So a bare value goes on over the marker, an operator does not, and
trimming does not lose it (`MarkedComparison.argumentText`, `MarkedComparison.argument_ends`).  The
value of the comparison still has it (`MarkedComparison.mem_value`), so a field that allows wildcards
is asked for a pattern, or refuses an operator that asks for an order.
-/
import FilterQuery.Proofs.Schema.Naming
import FilterQuery.Proofs.Search.Stages
import FilterQuery.Proofs.Value.Wildcard
import FilterQuery.Search.Marked

namespace FilterQuery

/-! ## Markers -/

namespace Settings

variable {settings : Settings}

theorem mem_reserved_of_isReserved {c : Char} (h : Expression.isReserved c = true) :
    c ∈ reserved := by
  simp only [Expression.isReserved, Expression.isDelimiter, Expression.isQuote, Bool.or_eq_true,
    beq_iff_eq] at h
  rcases h with (((rfl | rfl) | rfl) | rfl) | (rfl | rfl) <;> decide

/-- Settings that pass the check have a marker that is no blank and not reserved. -/
theorem allows_of_check (usable : settings.check = .ok ()) :
    Text.isBlank settings.wildcard = false ∧ settings.wildcard ∉ reserved := by
  obtain ⟨-, rest⟩ := refuse_eq_ok_iff.mp usable
  obtain ⟨allowed, -⟩ := refuse_eq_ok_iff.mp rest
  simpa [allowsWildcard] using allowed

theorem isReserved_wildcard (usable : settings.check = .ok ()) :
    Expression.isReserved settings.wildcard = false := by
  have free := (allows_of_check usable).2
  by_contra reserved
  exact free (mem_reserved_of_isReserved (by simpa using reserved))

end Settings

/-! ## Comparisons -/

namespace MarkedComparison

variable {settings : Settings} (m : MarkedComparison)

theorem toList_argument (marker : Char) :
    (m.argument marker).toList = m.before.toList ++ marker :: m.behind.toList := by
  simp [argument]

theorem mem_value (usable : settings.check = .ok ()) :
    settings.wildcard ∈ (m.value settings.wildcard).toList := by
  have visible := (Settings.allows_of_check usable).1
  rw [value, String.toList_ofList]
  apply Text.mem_trim _ visible
  simp [toList_argument]

/-- What stands behind the token is a bare value, with the marker in it. -/
theorem argumentText (usable : settings.check = .ok ()) :
    Expression.ArgumentText (m.argument settings.wildcard).toList
      (m.value settings.wildcard).toList := by
  have plain : ∀ c ∈ (m.argument settings.wildcard).toList, Expression.isReserved c = false := by
    intro c member
    rw [toList_argument, List.mem_append, List.mem_cons] at member
    rcases member with before | rfl | behind
    · exact m.plainBefore c before
    · exact Settings.isReserved_wildcard usable
    · exact m.plainBehind c behind
  have marked := m.mem_value usable
  rw [value, String.toList_ofList] at marked ⊢
  exact .bare plain (List.ne_nil_of_mem marked)

/-- No token goes on with it. -/
theorem argument_ends (usable : settings.check = .ok ()) :
    (m.argument settings.wildcard).toList.head? ≠ some '=' := by
  rw [toList_argument]
  cases front : m.before.toList with
  | nil =>
      intro equals
      have same : settings.wildcard = '=' := Option.some.inj equals
      exact (Settings.allows_of_check usable).2 (by rw [same]; decide)
  | cons c rest =>
      have ends := m.tokenEnds
      rw [front] at ends
      exact ends

theorem parse_text (limit : Nat) (usable : settings.check = .ok ()) :
    Expression.parse limit (m.text settings.wildcard) =
      .ok (.comparison m.field m.op (m.value settings.wildcard)) :=
  Expression.parse_comparison m.isSelector m.isToken (m.argumentText usable)
    (m.argument_ends usable)

variable {b : QueryBuilder} {field : Field}

/-- Behind `==` and `!=` the value is read as its pattern. -/
theorem ofRaw_value_of_equality (usable : settings.check = .ok ()) (kind : field.kind = .string)
    (wildcards : field.wildcards = true) (equality : m.op.isEquality = true) :
    Value.ofRaw settings field m.op (m.value settings.wildcard) =
      .ok (m.pattern settings.wildcard) := by
  have marked := m.mem_value usable
  rw [Value.ofRaw_of_equality kind equality, wildcards]
  simp [Value.ofString, marked, pattern]

/-- It has no order. -/
theorem ofRaw_value_of_ordering (usable : settings.check = .ok ()) (kind : field.kind = .string)
    (wildcards : field.wildcards = true) (ordering : m.op.isOrdering = true) :
    Value.ofRaw settings field m.op (m.value settings.wildcard) =
      .error (.invalidOperator field.path m.op .string .wildcardsEqualityOnly) := by
  have marked := m.mem_value usable
  have restricted := (Value.restriction?_string_eq_some_iff kind).mpr ⟨⟨wildcards, marked⟩, rfl⟩
  rw [Value.ofRaw_of_restricted ordering restricted, kind]
  rfl

theorem comparisonClause_eq_answer (usable : b.settings.check = .ok ())
    (resolved : b.schema.resolve m.field = .ok field) (kind : field.kind = .string)
    (wildcards : field.wildcards = true) :
    b.comparisonClause m.field m.op (m.value b.settings.wildcard) =
      m.answer b.settings.wildcard field := by
  have read := m.ofRaw_value_of_equality usable kind wildcards
  have refused := m.ofRaw_value_of_ordering usable kind wildcards
  simp only [QueryBuilder.comparisonClause, resolved, answer]
  cases op : m.op with
  | equal | notEqual =>
      rw [op] at read
      rw [read rfl]
      rfl
  | greater | greaterOrEqual | less | lessOrEqual =>
      rw [op] at refused
      rw [refused rfl]

end MarkedComparison

/-- With every marker that settings allow, comparisons are read as they are written, and ask for
patterns of fields that allow wildcards. -/
theorem QueryBuilder.reads_marked {b : QueryBuilder} (usable : b.settings.check = .ok ())
    (m : MarkedComparison) : b.ReadsMarked m where
  parsed := by rw [parse, m.parse_text _ usable]
  kept := m.mem_value usable
  answered field resolved kind wildcards := by
    rw [query_of_parse_ok (m.parse_text _ usable), clauseOf,
      m.comparisonClause_eq_answer usable resolved kind wildcards]

/-- A percent sign directly behind `>`, with blanks that go and an equals sign that stays. -/
theorem QueryBuilder.reads_marked_percent :
    let field : Field := ⟨"name", "doc.name", .string, true, true⟩
    let b : QueryBuilder := ⟨⟨[field], [], []⟩, ⟨1, '%', []⟩⟩
    b.settings.check = .ok () ∧
      b.parse "name>%= " = .ok (.comparison "name" .greater "%=") ∧
      b.query "name>%= " =
        .error (.invalidOperator "name" .greater .string .wildcardsEqualityOnly) := by
  intro field b
  have usable : b.settings.check = .ok () := by decide
  let m : MarkedComparison :=
    ⟨"name", ">", .greater, "", "= ", .name (by decide), by decide, List.forall_mem_nil _,
      List.forall_mem_cons.mpr ⟨by decide, List.forall_mem_singleton.mpr (by decide)⟩, by decide⟩
  have reads := reads_marked usable m
  have resolved : b.schema.resolve "name" = .ok field := by rfl
  have value : m.value '%' = "%=" := by decide
  have text : m.text '%' = "name>%= " := by decide
  refine ⟨usable, ?_, ?_⟩
  · have parsed := reads.parsed
    rwa [text, value] at parsed
  · have answered := reads.answered field resolved rfl rfl
    rwa [text] at answered

end FilterQuery
