/-
# FilterQuery.Proofs.Value.Typing -- raw texts become values that their fields take

One lemma for each kind of field says that what is read is a value of that kind.  The values
without an order are those for which operators are restricted (`isOrdered_iff_of_read?`), so an
operator changes nothing about a value; all that it can do is to refuse one that has no order
(`ofRaw_eq_ok_iff`).
-/
import FilterQuery.Proofs.Steps
import FilterQuery.Proofs.Value.Operators
import FilterQuery.Value.Typing

namespace FilterQuery

variable {settings : Settings} {field : Field} {op : Comparator} {raw : String} {v : Value}

theorem ByteSize.nonnegative_of_read {s : List Char} {n : Int64} (h : read s = .ok n) :
    0 ≤ n.toInt := by
  obtain ⟨scan, -, sized⟩ := bind_eq_ok_iff.mp h
  unfold Scan.size at sized
  split at sized
  · rename_i total _
    split at sized
    · rename_i small
      obtain rfl := Except.ok.inj sized
      rw [Int64.toInt_ofNat_of_lt small]
      exact Int.natCast_nonneg total
    · cases sized
  · cases sized

namespace Value

/-! ## One kind at a time -/

theorem takes_ofString (marker : Char) (wildcards : Bool) (raw : String) :
    FieldKind.string.Takes wildcards (ofString marker wildcards raw) := by
  unfold ofString
  split
  · rename_i found
    exact .pattern _ (Bool.and_eq_true_iff.mp found).1
  · exact .text raw

theorem takes_of_decimal? {wildcards : Bool} (h : decimal? raw = some v) :
    (FieldKind.number .decimal).Takes wildcards v := by
  unfold decimal? at h
  split at h
  · obtain rfl := Option.some.inj h
    exact .whole _
  · split at h
    · split at h
      · rename_i finite
        obtain rfl := Option.some.inj h
        exact .decimal _ finite
      · cases h
    · cases h

theorem require_eq_ok_iff {expected : Expectation} {read : Option Value} :
    require field raw expected read = .ok v ↔ read = some v := by
  cases read <;> simp [require]

theorem requireSize_eq_ok_iff {read : Except ByteSize.Fault Int64} :
    requireSize field raw read = .ok v ↔ ∃ n, read = .ok n ∧ v = .integer n := by
  rcases read with (_ | _) | n <;> simp [requireSize, eq_comm]

theorem takes_of_number {wildcards : Bool} {format : NumberFormat}
    (h : number field format raw = .ok v) : (FieldKind.number format).Takes wildcards v := by
  cases format with
  | integer =>
      obtain ⟨n, _, rfl⟩ := Option.map_eq_some_iff.mp (require_eq_ok_iff.mp h)
      exact .integer n
  | decimal => exact takes_of_decimal? (require_eq_ok_iff.mp h)
  | bytes =>
      obtain ⟨n, read, rfl⟩ := requireSize_eq_ok_iff.mp h
      exact .size n (ByteSize.nonnegative_of_read read)

theorem takes_of_boolean? {wildcards : Bool} (h : boolean? raw = some v) :
    FieldKind.boolean.Takes wildcards v := by
  unfold boolean? at h
  split at h
  · cases h
    exact .boolean true
  · split at h
    · cases h
      exact .boolean false
    · cases h

theorem takes_of_date? {wildcards : Bool} {own : Option String} {patterns : List String}
    (h : date? patterns raw = some v) : (FieldKind.date own).Takes wildcards v := by
  unfold date? at h
  split at h
  · cases h
    exact .date own _
  · obtain ⟨t, _, rfl⟩ := Option.map_eq_some_iff.mp h
    exact .date own t

theorem takes_of_member? {wildcards : Bool} {members : List String}
    (h : member? members raw = some v) : (FieldKind.enumeration members).Takes wildcards v := by
  unfold member? at h
  split at h
  · rename_i declared
    cases h
    exact .member members raw (by simpa using declared)
  · cases h

/-! ## All kinds -/

theorem takes_of_read? (h : read? settings field raw = some v) : field.Takes v := by
  unfold Field.Takes
  cases kind : field.kind with
  | string =>
      simp only [read?, kind, Option.some.injEq] at h
      subst h
      exact takes_ofString settings.wildcard field.wildcards raw
  | number format =>
      simp only [read?, kind, toOption_eq_some_iff] at h
      exact takes_of_number h
  | boolean =>
      simp only [read?, kind] at h
      exact takes_of_boolean? h
  | date own =>
      simp only [read?, kind] at h
      exact takes_of_date? h
  | enumeration members =>
      simp only [read?, kind] at h
      exact takes_of_member? h

/-- Whether a value has an order is known from its kind, but for texts and patterns. -/
theorem isOrdered_of_takes {kind : FieldKind} {wildcards : Bool} (takes : kind.Takes wildcards v) :
    match kind with
    | .string => v.isOrdered = !v.isPattern
    | .number _ | .date _ => v.isOrdered = true
    | .boolean | .enumeration _ => v.isOrdered = false := by
  cases takes <;> rfl

theorem reading_eq_ok_iff :
    reading settings field raw = .ok v ↔ read? settings field raw = some v := by
  cases kind : field.kind with
  | string => simp only [reading, read?, kind, Except.ok.injEq, Option.some.injEq]
  | number format => simp only [reading, read?, kind, toOption_eq_some_iff]
  | _ => simp only [reading, read?, kind, require_eq_ok_iff]

/-- What is read has an order exactly if operators are not restricted. -/
theorem isOrdered_iff_of_read? (read : read? settings field raw = some v) :
    v.isOrdered = true ↔ restriction? settings.wildcard field raw = none := by
  have takes := takes_of_read? read
  unfold Field.Takes at takes
  cases kind : field.kind with
  | string =>
      rw [kind] at takes
      have ordered : v.isOrdered = !v.isPattern := isOrdered_of_takes takes
      simp only [read?, kind, Option.some.injEq] at read
      rw [ordered, ← read, isPattern_ofString]
      cases allowed : field.wildcards <;> simp [restriction?, kind, allowed]
  | number format | date own =>
      rw [kind] at takes
      have ordered : v.isOrdered = true := isOrdered_of_takes takes
      simp [restriction?, kind, ordered]
  | boolean | enumeration members =>
      rw [kind] at takes
      have unordered : v.isOrdered = false := isOrdered_of_takes takes
      simp [restriction?, kind, unordered]

/-- The operator decides whether there is a value, but not which. -/
theorem ofRaw_eq_ok_iff : ofRaw settings field op raw = .ok v ↔
    read? settings field raw = some v ∧ (op.isOrdering = true → v.isOrdered = true) := by
  constructor
  · intro made
    have suits : op.isOrdering = true → restriction? settings.wildcard field raw = none := by
      intro ordering
      cases restricted : restriction? settings.wildcard field raw with
      | none => rfl
      | some reason =>
          rw [ofRaw_of_restricted ordering restricted] at made
          cases made
    rw [ofRaw_of_suits suits, reading_eq_ok_iff] at made
    exact ⟨made, fun ordering => (isOrdered_iff_of_read? made).mpr (suits ordering)⟩
  · rintro ⟨read, ordered⟩
    rw [ofRaw_of_suits fun ordering => (isOrdered_iff_of_read? read).mp (ordered ordering)]
    exact reading_eq_ok_iff.mpr read

theorem takes_of_ofRaw (h : ofRaw settings field op raw = .ok v) : field.Takes v :=
  takes_of_read? (ofRaw_eq_ok_iff.mp h).1

end Value

end FilterQuery
