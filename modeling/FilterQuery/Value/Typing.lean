/-
# FilterQuery.Value.Typing -- which values fields can be compared with

There is a rule for every kind of field and every form that its values can have
(`FieldKind.Takes`).  Patterns, truth values and members of enumerations have no order
(`Value.isOrdered`).

What a raw text is for a field does not depend on the operator in front of it
(`Value.read?`).
-/
import FilterQuery.Value.Raw

namespace FilterQuery

/-- The values of a kind; `wildcards` says whether patterns are among them. -/
inductive FieldKind.Takes (wildcards : Bool) : FieldKind → Value → Prop where
  | text (s : String) : Takes wildcards .string (.text s)
  | pattern (s : String) (allowed : wildcards = true) : Takes wildcards .string (.pattern s)
  | integer (n : Int64) : Takes wildcards (.number .integer) (.integer n)
  | whole (n : Int64) : Takes wildcards (.number .decimal) (.integer n)
  | decimal (x : Float) (finite : Number.Double.isFinite x = true) :
      Takes wildcards (.number .decimal) (.float x)
  | size (n : Int64) (nonnegative : 0 ≤ n.toInt) : Takes wildcards (.number .bytes) (.integer n)
  | boolean (b : Bool) : Takes wildcards .boolean (.boolean b)
  | date (pattern : Option String) (t : Calendar.Timestamp) :
      Takes wildcards (.date pattern) (.date t)
  | member (members : List String) (s : String) (declared : s ∈ members) :
      Takes wildcards (.enumeration members) (.member s)

/-- A value that a field can have. -/
def Field.Takes (field : Field) (value : Value) : Prop :=
  field.kind.Takes field.wildcards value

namespace Value

/-- A value that others can be greater or less than. -/
def isOrdered : Value → Bool
  | text _ | integer _ | float _ | date _ => true
  | pattern _ | boolean _ | member _ => false

/-- The value that a raw text is for a field, whatever it is compared by. -/
def read? (settings : Settings) (field : Field) (raw : String) : Option Value :=
  match field.kind with
  | .string => some (ofString settings.wildcard field.wildcards raw)
  | .number format => (number field format raw).toOption
  | .boolean => boolean? raw
  | .date own => date? (own.toList ++ settings.datePatterns) raw
  | .enumeration members => member? members raw

end Value

end FilterQuery
