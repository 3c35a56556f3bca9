/-
# FilterQuery.Value.Operators -- which operators suit a field

Some values have no order: truth values, members of enumerations, and texts that stand for many
others.  A raw text is one of these for a field by the kind of the field alone, or by a marker in it
(`Value.Unordered`), and whether it can be read at all does not matter.

`Value.OperatorDecides` says that an operator is refused if it asks for an order where there is
none, and that it has no other influence on what a raw text is.
-/
import FilterQuery.Value.Raw

namespace FilterQuery.Value

/-- What a raw text could be for a field has no order. -/
inductive Unordered (marker : Char) (field : Field) (raw : String) : Prop where
  | boolean (kind : field.kind = .boolean)
  | enumeration (members : List String) (kind : field.kind = .enumeration members)
  | pattern (kind : field.kind = .string) (allowed : field.wildcards = true)
      (marked : marker ∈ raw.toList)

/-- The operator is what a raw text is refused for. -/
def RefusesOperator (settings : Settings) (field : Field) (op : Comparator) (raw : String) : Prop :=
  ∃ path found kind reason,
    ofRaw settings field op raw = .error (.invalidOperator path found kind reason)

/-- An operator is refused or makes no difference. -/
structure OperatorDecides (settings : Settings) (field : Field) (raw : String) : Prop where
  /-- Refused are the operators that ask for an order where there is none. -/
  refused_iff : ∀ op, RefusesOperator settings field op raw ↔
    op.isOrdering = true ∧ Unordered settings.wildcard field raw
  /-- The failure names the field and the operator, and wildcards as the reason on texts only. -/
  names : ∀ op path found kind reason,
    ofRaw settings field op raw = .error (.invalidOperator path found kind reason) →
      path = field.path ∧ found = op ∧ kind = field.kind.valueKind ∧
        (reason = .wildcardsEqualityOnly ↔ field.kind = .string)
  /-- A field with texts refuses nothing but operators. -/
  fits : field.kind = .string → ∀ op path value expected,
    ofRaw settings field op raw ≠ .error (.unfitValue path value expected)
  /-- Fields with numbers suit every operator. -/
  numbers : ∀ format, field.kind = .number format → ∀ op, ¬ RefusesOperator settings field op raw
  /-- So do fields with dates. -/
  dates : ∀ pattern, field.kind = .date pattern → ∀ op, ¬ RefusesOperator settings field op raw
  /-- Operators that are not refused give the same value, or the same failure. -/
  same : ∀ op op', ¬ RefusesOperator settings field op raw →
    ¬ RefusesOperator settings field op' raw →
      ofRaw settings field op raw = ofRaw settings field op' raw

end FilterQuery.Value
