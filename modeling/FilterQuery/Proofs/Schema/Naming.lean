/-
# FilterQuery.Proofs.Schema.Naming -- what a schema calls a field can be written in a filter

Schemas look at names one by one (`isName`), filters at a whole run of characters and at how
its parts begin.  A text is a selector of a filter exactly if it is names with dots between
them (`Selector.IsDotted`, `selectorText_iff_dotted`), which is what the paths of a schema are
made of (`Branch.isDotted_path`).

So each path and each alias can be compared by every operator, and with every argument but
one that would go on where the token ends (`longest_of_no_equals`).
-/
import FilterQuery.Expression.Reading
import FilterQuery.Proofs.Printing.Nesting
import FilterQuery.Proofs.Schema.Resolution

namespace FilterQuery

namespace Expression

variable {limit : Nat}

/-! ## Selectors -/

theorem selectorText_intercalate {names : List String} (nonempty : names ≠ [])
    (all : ∀ name ∈ names, isName name.toList = true) :
    SelectorText (".".intercalate names).toList := by
  induction names with
  | nil => exact absurd rfl nonempty
  | cons name names ih =>
      have first := all name List.mem_cons_self
      by_cases last : names = []
      · rw [last, String.intercalate_singleton]
        exact .name first
      · rw [toList_intercalate_cons name last]
        exact .dotted first (ih last fun n member => all n (List.mem_cons_of_mem _ member))

theorem isDotted_of_selectorText {s : List Char} (h : SelectorText s) :
    Selector.IsDotted (String.ofList s) := by
  induction h with
  | @name s isName =>
      refine ⟨[String.ofList s], by simp, ?_, by rw [String.intercalate_singleton]⟩
      simpa using isName
  | @dotted s t isName _ ih =>
      obtain ⟨names, nonempty, all, same⟩ := ih
      refine ⟨String.ofList s :: names, by simp, ?_, ?_⟩
      · simpa using ⟨isName, all⟩
      · rw [← String.toList_inj, toList_intercalate_cons _ nonempty, ← same]
        simp

/-- Selectors are names with dots between them. -/
theorem selectorText_iff_dotted {s : String} : SelectorText s.toList ↔ Selector.IsDotted s := by
  constructor
  · intro h
    simpa using isDotted_of_selectorText h
  · rintro ⟨names, nonempty, all, rfl⟩
    exact selectorText_intercalate nonempty all

/-! ## Comparisons -/

theorem derives_of_comparisonText {s : List Char} {e : Expression} (h : ComparisonText s e) :
    Derives limit s e := by
  have padded : Padded ComparisonText s e := by
    simpa using Padded.mk blanks_nil h blanks_nil
  exact .single (.single (operandText_of_comparison limit padded))

/-- A selector, a token and an argument that does not go on with the token are read as they are
written. -/
theorem parse_comparison {field token argument value : String} {op : Comparator}
    (isSelector : SelectorText field.toList) (member : (token, op) ∈ Comparator.spellings)
    (text : ArgumentText argument.toList value.toList) (ends : argument.toList.head? ≠ some '=') :
    parse limit (field ++ token ++ argument) = .ok (.comparison field op value) := by
  have longest := longest_of_no_equals member ends
  have := ComparisonText.mk isSelector blanks_nil member blanks_nil text longest
  rw [parse_eq_ok_iff]
  simpa using derives_of_comparisonText this

theorem readAsSelector_of_dotted {field : String} (dotted : Selector.IsDotted field) :
    ReadAsSelector limit field :=
  fun _ member _ _ text ends =>
    parse_comparison (selectorText_iff_dotted.mpr dotted) member text ends

theorem argumentText_x : ArgumentText "x".toList "x".toList :=
  .bare (List.forall_mem_singleton.mpr (by decide)) (by decide)

/-- Before the shortest of arguments a text is read as a selector only if it is one. -/
theorem parse_equal_x_iff {s : String} :
    parse limit (s ++ "==x") = .ok (.comparison s .equal "x") ↔ Selector.IsDotted s := by
  constructor
  · intro read
    have wellFormed := (parse_eq_ok_iff.mp read).wellFormed
    cases wellFormed with
    | comparison isSelector => exact selectorText_iff_dotted.mp isSelector
  · intro dotted
    have reads : ReadAsSelector limit s := readAsSelector_of_dotted dotted
    have read := reads ("==", .equal) (by decide) "x" "x" argumentText_x (by decide)
    rwa [String.append_assoc] at read

end Expression

/-! ## Names of schemas -/

namespace Branch

theorem isDotted_path {b : Branch} (sound : ∀ a ∈ b.trail, a.Sound) : Selector.IsDotted b.path := by
  refine ⟨b.names, by simp [names, trail], ?_, rfl⟩
  intro name member
  obtain ⟨a, onTrail, rfl⟩ := List.mem_map.mp member
  exact (sound a onTrail).name

end Branch

namespace Schema

variable {d : SchemaDefinition} {s : Schema}

theorem represents_of_ofDefinition (made : ofDefinition d = .ok s) : s.Represents d := by
  obtain ⟨valid, rfl⟩ := ofDefinition_eq_ok_iff.mp made
  exact represents_unchecked valid

/-- Found are the fields to which a token leads and that can be searched. -/
theorem resolve_eq_ok_iff_leadsTo (made : ofDefinition d = .ok s) {token : String} {f : Field} :
    s.resolve token = .ok f ↔ d.LeadsTo token f ∧ f.searchable = true := by
  rw [resolve_eq_ok_iff,
    leadsTo_iff (coherent_of_ofDefinition made) (represents_of_ofDefinition made)]

theorem isDotted_of_mem_selectors (made : ofDefinition d = .ok s) {token : String}
    (listed : token ∈ s.selectors) : Selector.IsDotted token := by
  have valid := (ofDefinition_eq_ok_iff.mp made).1
  obtain ⟨f, member, -, rfl⟩ := mem_selectors_iff.mp listed
  obtain ⟨b, leaf, found⟩ := (represents_of_ofDefinition made).mem_fields_iff.mp member
  rw [(Branch.path_of_field? found).1]
  exact Branch.isDotted_path (Branch.sound_of_mem_trail valid.sound (List.mem_of_mem_filter leaf))

theorem isDotted_of_mem_aliases (made : ofDefinition d = .ok s) {entry : String × String}
    (listed : entry ∈ s.aliases) : Selector.IsDotted entry.1 := by
  obtain ⟨valid, rfl⟩ := ofDefinition_eq_ok_iff.mp made
  refine ⟨[entry.1], by simp, ?_, by rw [String.intercalate_singleton]⟩
  simpa using valid.aliasName entry listed

/-- The path of a leaf that can be searched is a selector and leads to the field of the leaf. -/
theorem resolve_path_of_searchable (made : ofDefinition d = .ok s) {b : Branch}
    (leaf : b ∈ d.leaves) (searchable : b.tip.searchable = true) :
    b.path ∈ s.selectors ∧ ∃ f, b.field? = some f ∧ s.resolve b.path = .ok f := by
  obtain ⟨f, found⟩ := Branch.exists_field?_of_leaf leaf
  have path := (Branch.path_of_field? found).1
  have own : f ∈ s.fields := (represents_of_ofDefinition made).mem_fields_iff.mpr ⟨b, leaf, found⟩
  have searched : f.searchable = true := by rw [Branch.searchable_of_field? found, searchable]
  refine ⟨mem_selectors_iff.mpr ⟨f, own, searched, path⟩, f, found, ?_⟩
  rw [resolve_eq_ok_iff_leadsTo made]
  exact ⟨⟨b, leaf, found, path, .inl rfl⟩, searched⟩

/-- Filters take for selectors what schemas take for names with dots between them, and so every
selector and every alias of a schema is read as it is written, and every declared field that can be
searched is found by its path. -/
theorem selectors_read_as_written (limit : Nat) :
    (∀ text : String, Expression.parse limit (text ++ "==x") = .ok (.comparison text .equal "x") ↔
      Selector.IsDotted text) ∧
    ∀ (d : SchemaDefinition) (s : Schema), ofDefinition d = .ok s →
      (∀ token ∈ s.selectors, Expression.ReadAsSelector limit token) ∧
      (∀ entry ∈ s.aliases, Expression.ReadAsSelector limit entry.1) ∧
      (∀ b ∈ d.leaves, b.tip.searchable = true →
        b.path ∈ s.selectors ∧ ∃ f, b.field? = some f ∧ s.resolve b.path = .ok f) := by
  refine ⟨fun text => Expression.parse_equal_x_iff, fun d s made => ⟨?_, ?_, ?_⟩⟩
  · intro token listed
    exact Expression.readAsSelector_of_dotted (isDotted_of_mem_selectors made listed)
  · intro entry listed
    exact Expression.readAsSelector_of_dotted (isDotted_of_mem_aliases made listed)
  · intro b leaf searchable
    exact resolve_path_of_searchable made leaf searchable

/-- A path with a hyphen at its end and an alias, in front of tokens that others begin with; what
begins with a digit is no name, and neither is nothing between two dots. -/
theorem selectors_read_as_written_hyphen :
    let name : Definition := .string "n-1-"
    let d : SchemaDefinition := ⟨[("_t", "meta.n-1-")], [Definition.object "meta" [name]]⟩
    let s : Schema :=
      ⟨[⟨"meta.n-1-", "meta.n-1-", .string, true, true⟩], ["meta"], [("_t", "meta.n-1-")]⟩
    ofDefinition d = .ok s ∧
      Expression.parse 0 "meta.n-1->x" = .ok (.comparison "meta.n-1-" .greater "x") ∧
      Expression.parse 0 "_t<='='" = .ok (.comparison "_t" .lessOrEqual "=") ∧
      (∃ f, s.resolve "meta.n-1-" = .ok f) ∧
      ¬ Selector.IsDotted "1a" ∧ ¬ Selector.IsDotted "a..b" := by
  intro name d s
  have made : ofDefinition d = .ok s := by decide +kernel
  obtain ⟨exactly, names⟩ := selectors_read_as_written 0
  obtain ⟨paths, aliases, fields⟩ := names d s made
  have inside : Expression.QuotedText '\'' ['='] ['='] := .plain (by decide) (by decide) .nil
  have quoted : Expression.ArgumentText "'='".toList "=".toList := .quoted (by decide) inside
  refine ⟨made, ?_, ?_, ?_, ?_, ?_⟩
  · exact paths "meta.n-1-" (by decide) (">", .greater) (by decide) "x" "x" Expression.argumentText_x
      (by decide)
  · exact aliases ("_t", "meta.n-1-") (by decide) ("<=", .lessOrEqual) (by decide) "'='" "=" quoted
      (by decide)
  · have leaf : (⟨[Definition.object "meta" [name]], name⟩ : Branch) ∈ d.leaves :=
      List.mem_cons_self
    obtain ⟨-, f, -, resolved⟩ := fields _ leaf rfl
    exact ⟨f, resolved⟩
  · rw [← exactly]
    decide +kernel
  · rw [← exactly]
    decide +kernel

end Schema

end FilterQuery
