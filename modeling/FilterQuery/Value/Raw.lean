/-
# FilterQuery.Value.Raw -- the value that a raw text is for a field

`Value.ofRaw` turns the text behind an operator into a value of the kind that its
field has.  Truth values and members of enumerations have no order, and neither
have values with wildcards, so ordering operators are refused for them before
the text is looked at any further.

A date is an RFC 3339 timestamp or matches a pattern: the field's own first,
then those of the settings in their order.

A text that is read in vain is a value that the field cannot take; but where the
scan of a size breaks off, everything does (`Failure.overflow`).
-/
import FilterQuery.Calendar.Pattern
import FilterQuery.Failure
import FilterQuery.Number.Reading
import FilterQuery.Settings
import FilterQuery.Value.Basic
import FilterQuery.Value.ByteSize
import FilterQuery.Value.Wildcard

namespace FilterQuery.Value

/-- A word in whatever case its ASCII letters are written. -/
def isWord (word : String) (raw : String) : Bool :=
  raw.map Char.toLower == word

/-- The text or the pattern that a raw text is. -/
def ofString (marker : Char) (wildcards : Bool) (raw : String) : Value :=
  if wildcards && raw.toList.contains marker then
    .pattern (String.ofList (Wildcard.normalize marker raw.toList))
  else .text raw

/-- The truth value that a raw text is. -/
def boolean? (raw : String) : Option Value :=
  if isWord "true" raw then some (.boolean true)
  else if isWord "false" raw then some (.boolean false)
  else none

/-- The member that a raw text is. -/
def member? (members : List String) (raw : String) : Option Value :=
  if members.contains raw then some (.member raw) else none

/-- The decimal that a raw text is: one that is whole stays whole. -/
def decimal? (raw : String) : Option Value :=
  match Number.readInt64? raw.toList with
  | some n => some (.integer n)
  | none =>
    match Number.readFloat? raw.toList with
    | some x => if Number.Double.isFinite x then some (.float x) else none
    | none => none

/-- The timestamp that a raw text is. -/
def date? (patterns : List String) (raw : String) : Option Value :=
  match Calendar.Timestamp.read? raw.toList with
  | some t => some (.date t)
  | none => (patterns.findSome? (Calendar.readBy? · raw.toList)).map .date

/-- The value, or the failure that the raw text is none that `field` can take. -/
def require (field : Field) (raw : String) (expected : Expectation) :
    Option Value → Except Failure Value
  | some v => .ok v
  | none => .error (.unfitValue field.path raw expected)

/-- The size as a value, or the failure that there is none. -/
def requireSize (field : Field) (raw : String) : Except ByteSize.Fault Int64 → Except Failure Value
  | .ok n => .ok (.integer n)
  | .error .unfit => .error (.unfitValue field.path raw .size)
  | .error .overflow => .error .overflow

/-- The number that a raw text is for a field with a format. -/
def number (field : Field) (format : NumberFormat) (raw : String) : Except Failure Value :=
  match format with
  | .integer => require field raw .integer ((Number.readInt64? raw.toList).map .integer)
  | .decimal => require field raw .number (decimal? raw)
  | .bytes => requireSize field raw (ByteSize.read raw.toList)

/-- The value that a raw text is for a field that is compared by `op`. -/
def ofRaw (settings : Settings) (field : Field) (op : Comparator) (raw : String) :
    Except Failure Value :=
  let refused (reason : Restriction) : Except Failure Value :=
    .error (.invalidOperator field.path op field.kind.valueKind reason)
  match field.kind with
  | .string =>
    let value := ofString settings.wildcard field.wildcards raw
    if value.isPattern && op.isOrdering then refused .wildcardsEqualityOnly else .ok value
  | .number format => number field format raw
  | .date own =>
    let patterns := own.toList ++ settings.datePatterns
    require field raw (.date patterns) (date? patterns raw)
  | .boolean =>
    if op.isOrdering then refused .equalityOnly
    else require field raw .truthValue (boolean? raw)
  | .enumeration members =>
    if op.isOrdering then refused .equalityOnly
    else require field raw (.memberOf members) (member? members raw)

end FilterQuery.Value
