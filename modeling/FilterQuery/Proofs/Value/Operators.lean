/-
# FilterQuery.Proofs.Value.Operators -- an operator is refused or makes no difference

What operators that ask for an order would be refused for is known before the text is read
(`restriction?`), and what the text is does not depend on the operator (`reading`).  The value of a
raw text is put together from these two: if there is a restriction, an operator that asks for an
order is refused for it, whatever the text is (`ofRaw_of_restricted`), and any other operator leaves
the text to be read (`ofRaw_of_suits`).  Nothing that is found in reading it is held against the
operator (`reading_eq_error`).
-/
import FilterQuery.Value.Operators

namespace FilterQuery.Value

variable {settings : Settings} {field : Field} {op : Comparator} {raw : String}
  {failure : Failure}

/-! ## What has no order -/

/-- What operators that ask for an order are refused for, if they are. -/
def restriction? (marker : Char) (field : Field) (raw : String) : Option Restriction :=
  match field.kind with
  | .string =>
    if field.wildcards && raw.toList.contains marker then some .wildcardsEqualityOnly else none
  | .boolean | .enumeration _ => some .equalityOnly
  | .number _ | .date _ => none

theorem restriction?_string_eq_some_iff {marker : Char} {reason : Restriction}
    (kind : field.kind = .string) : restriction? marker field raw = some reason ↔
      (field.wildcards = true ∧ marker ∈ raw.toList) ∧ reason = .wildcardsEqualityOnly := by
  simp only [restriction?, kind, Option.ite_none_right_eq_some, Bool.and_eq_true,
    List.contains_iff_mem, Option.some.injEq, @eq_comm _ reason]

/-- There is a restriction exactly where there is no order. -/
theorem exists_restriction?_iff {marker : Char} :
    (∃ reason, restriction? marker field raw = some reason) ↔ Unordered marker field raw := by
  constructor
  · rintro ⟨reason, restricted⟩
    cases kind : field.kind with
    | string =>
        obtain ⟨⟨allowed, marked⟩, -⟩ := (restriction?_string_eq_some_iff kind).mp restricted
        exact .pattern kind allowed marked
    | boolean => exact .boolean kind
    | enumeration members => exact .enumeration members kind
    | number format => simp [restriction?, kind] at restricted
    | date pattern => simp [restriction?, kind] at restricted
  · rintro (kind | ⟨members, kind⟩ | ⟨kind, allowed, marked⟩)
    · exact ⟨.equalityOnly, by simp [restriction?, kind]⟩
    · exact ⟨.equalityOnly, by simp [restriction?, kind]⟩
    · exact ⟨_, (restriction?_string_eq_some_iff kind).mpr ⟨⟨allowed, marked⟩, rfl⟩⟩

/-- Texts are restricted for their wildcards, and nothing else is. -/
theorem reason_of_restriction? {marker : Char} {reason : Restriction}
    (restricted : restriction? marker field raw = some reason) :
    reason = .wildcardsEqualityOnly ↔ field.kind = .string := by
  constructor
  · rintro rfl
    unfold restriction? at restricted
    split at restricted
    · assumption
    all_goals cases restricted
  · intro kind
    exact ((restriction?_string_eq_some_iff kind).mp restricted).2

/-! ## Reading -/

/-- What a raw text is for a field, whatever it is compared by. -/
def reading (settings : Settings) (field : Field) (raw : String) : Except Failure Value :=
  match field.kind with
  | .string => .ok (ofString settings.wildcard field.wildcards raw)
  | .number format => number field format raw
  | .date own =>
    require field raw (.date (own.toList ++ settings.datePatterns))
      (date? (own.toList ++ settings.datePatterns) raw)
  | .boolean => require field raw .truthValue (boolean? raw)
  | .enumeration members => require field raw (.memberOf members) (member? members raw)

theorem reading_string (kind : field.kind = .string) :
    reading settings field raw = .ok (ofString settings.wildcard field.wildcards raw) := by
  simp only [reading, kind]

theorem require_eq_error {expected : Expectation} {read : Option Value}
    (failed : require field raw expected read = .error failure) :
    failure = .unfitValue field.path raw expected := by
  cases read with
  | some v => cases failed
  | none =>
      cases failed
      rfl

theorem requireSize_eq_error {read : Except ByteSize.Fault Int64}
    (failed : requireSize field raw read = .error failure) :
    failure = .unfitValue field.path raw .size ∨ failure = .overflow := by
  rcases read with (_ | _) | n
  · cases failed
    exact .inl rfl
  · cases failed
    exact .inr rfl
  · cases failed

theorem number_eq_error {format : NumberFormat}
    (failed : number field format raw = .error failure) :
    (∃ expected, failure = .unfitValue field.path raw expected) ∨ failure = .overflow := by
  cases format with
  | integer => exact .inl ⟨_, require_eq_error failed⟩
  | decimal => exact .inl ⟨_, require_eq_error failed⟩
  | bytes => exact (requireSize_eq_error failed).imp_left fun unfit => ⟨_, unfit⟩

/-- A text that is read in vain is no value that the field can take, or breaks off. -/
theorem reading_eq_error (failed : reading settings field raw = .error failure) :
    (∃ expected, failure = .unfitValue field.path raw expected) ∨ failure = .overflow := by
  unfold reading at failed
  split at failed
  · cases failed
  · exact number_eq_error failed
  all_goals exact .inl ⟨_, require_eq_error failed⟩

theorem reading_ne_invalidOperator {path : String} {kind : ValueKind} {reason : Restriction} :
    reading settings field raw ≠ .error (.invalidOperator path op kind reason) := by
  intro refused
  obtain ⟨_, unfit⟩ | overflow := reading_eq_error refused
  · cases unfit
  · cases overflow

/-! ## Operators -/

theorem isPattern_ofString (marker : Char) (wildcards : Bool) (raw : String) :
    (ofString marker wildcards raw).isPattern = (wildcards && raw.toList.contains marker) := by
  unfold ofString
  cases wildcards && raw.toList.contains marker <;> rfl

/-- Where there is no order, asking for one is refused before the text is looked at. -/
theorem ofRaw_of_restricted {reason : Restriction} (ordering : op.isOrdering = true)
    (restricted : restriction? settings.wildcard field raw = some reason) :
    ofRaw settings field op raw =
      .error (.invalidOperator field.path op field.kind.valueKind reason) := by
  cases kind : field.kind with
  | string =>
      obtain ⟨⟨allowed, marked⟩, rfl⟩ := (restriction?_string_eq_some_iff kind).mp restricted
      simp [ofRaw, kind, isPattern_ofString, allowed, marked, ordering]
  | number format => simp [restriction?, kind] at restricted
  | date own => simp [restriction?, kind] at restricted
  | boolean =>
      obtain rfl : .equalityOnly = reason := by simpa [restriction?, kind] using restricted
      simp [ofRaw, kind, ordering]
  | enumeration members =>
      obtain rfl : .equalityOnly = reason := by simpa [restriction?, kind] using restricted
      simp [ofRaw, kind, ordering]

/-- Any other operator leaves the text to be read. -/
theorem ofRaw_of_suits
    (suits : op.isOrdering = true → restriction? settings.wildcard field raw = none) :
    ofRaw settings field op raw = reading settings field raw := by
  by_cases ordering : op.isOrdering = true
  · have unrestricted := suits ordering
    cases kind : field.kind with
    | string =>
        have plain : (ofString settings.wildcard field.wildcards raw).isPattern = false := by
          rw [isPattern_ofString]
          simpa [restriction?, kind] using unrestricted
        simp [ofRaw, reading, kind, plain]
    | number format => simp only [ofRaw, reading, kind]
    | date own => simp only [ofRaw, reading, kind]
    | boolean => simp [restriction?, kind] at unrestricted
    | enumeration members => simp [restriction?, kind] at unrestricted
  · cases kind : field.kind <;> simp [ofRaw, reading, kind, ordering]

theorem not_refusesOperator (unrestricted : restriction? settings.wildcard field raw = none) :
    ¬ RefusesOperator settings field op raw := by
  rintro ⟨path, found, kind, reason, refused⟩
  rw [ofRaw_of_suits fun _ => unrestricted] at refused
  exact reading_ne_invalidOperator refused

/-- Either the operator is refused for a restriction, or the text is read. -/
theorem ofRaw_cases (settings : Settings) (field : Field) (op : Comparator) (raw : String) :
    (∃ reason, op.isOrdering = true ∧ restriction? settings.wildcard field raw = some reason ∧
      ofRaw settings field op raw =
        .error (.invalidOperator field.path op field.kind.valueKind reason)) ∨
    ofRaw settings field op raw = reading settings field raw := by
  by_cases ordering : op.isOrdering = true
  · cases restricted : restriction? settings.wildcard field raw with
    | some reason => exact .inl ⟨reason, ordering, rfl, ofRaw_of_restricted ordering restricted⟩
    | none => exact .inr (ofRaw_of_suits fun _ => restricted)
  · exact .inr (ofRaw_of_suits fun ordering' => absurd ordering' ordering)

theorem refusesOperator_iff : RefusesOperator settings field op raw ↔
    op.isOrdering = true ∧ Unordered settings.wildcard field raw := by
  rw [← exists_restriction?_iff]
  constructor
  · rintro ⟨path, found, kind, reason, refused⟩
    rcases ofRaw_cases settings field op raw with ⟨reason', ordering, restricted, -⟩ | read
    · exact ⟨ordering, reason', restricted⟩
    · exact absurd (read.symm.trans refused) reading_ne_invalidOperator
  · rintro ⟨ordering, reason, restricted⟩
    exact ⟨_, _, _, reason, ofRaw_of_restricted ordering restricted⟩

theorem ofRaw_eq_reading (suits : ¬ RefusesOperator settings field op raw) :
    ofRaw settings field op raw = reading settings field raw := by
  rcases ofRaw_cases settings field op raw with ⟨reason, _, _, refused⟩ | read
  · exact absurd ⟨_, _, _, reason, refused⟩ suits
  · exact read

/-- For every field and every raw text, an operator is refused or makes no difference. -/
theorem ofRaw_operatorDecides (settings : Settings) (field : Field) (raw : String) :
    OperatorDecides settings field raw where
  refused_iff op := refusesOperator_iff
  names op path found kind reason refused := by
    rcases ofRaw_cases settings field op raw with ⟨reason', _, restricted, result⟩ | read
    · rw [result] at refused
      cases refused
      exact ⟨rfl, rfl, rfl, reason_of_restriction? restricted⟩
    · exact absurd (read.symm.trans refused) reading_ne_invalidOperator
  fits kind op path value expected unfit := by
    rcases ofRaw_cases settings field op raw with ⟨reason, _, _, result⟩ | read
    · rw [result] at unfit
      cases unfit
    · rw [read, reading_string kind] at unfit
      cases unfit
  numbers format kind op := not_refusesOperator (by simp only [restriction?, kind])
  dates pattern kind op := not_refusesOperator (by simp only [restriction?, kind])
  same op op' suits suits' := (ofRaw_eq_reading suits).trans (ofRaw_eq_reading suits').symm

/-- A word that is no truth value is not held against an operator that no truth value suits. -/
example : ofRaw .default ⟨"on", "on", .boolean, false, true⟩ .greater "maybe" =
    .error (.invalidOperator "on" .greater .boolean .equalityOnly) := rfl

end FilterQuery.Value
