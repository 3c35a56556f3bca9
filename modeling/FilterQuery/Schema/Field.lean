/-
# FilterQuery.Schema.Field -- the attributes that a filter can compare

A `Field` is an attribute of a document type: the dotted path by which a filter
names it, the dotted path by which the index names it, the kind of its values,
and whether wildcards and searches are allowed.
-/

namespace FilterQuery

/-- How the text of a number is read. -/
inductive NumberFormat where
  | integer
  | decimal
  | bytes
  deriving DecidableEq, Repr

namespace NumberFormat

/-- The format's own name. -/
def name : NumberFormat → String
  | integer => "integer"
  | decimal => "decimal"
  | bytes => "bytes"

/-- The format of a name in lower case. -/
def ofLower? : String → Option NumberFormat
  | "integer" | "int" | "long" => some integer
  | "decimal" | "float" | "double" => some decimal
  | "bytes" | "size" => some bytes
  | _ => none

/-- The format of a name, in whatever case it is written.  All letters of the names are ASCII, and
no other letter has one of them as its lower case. -/
def ofText? (s : String) : Option NumberFormat :=
  ofLower? (s.map Char.toLower)

end NumberFormat

/-- The kind of a value, as messages name it. -/
inductive ValueKind where
  | string
  | number
  | boolean
  | date
  | enumeration
  deriving DecidableEq, Repr

/-- The name of a kind. -/
def ValueKind.name : ValueKind → String
  | string => "string"
  | number => "number"
  | boolean => "boolean"
  | date => "date"
  | enumeration => "enum"

/-- The kind of an attribute, with what is needed to read its values. -/
inductive FieldKind where
  | string
  | number (format : NumberFormat)
  | boolean
  | date (pattern : Option String)
  | enumeration (members : List String)
  deriving DecidableEq, Repr

/-- The kind of the values. -/
def FieldKind.valueKind : FieldKind → ValueKind
  | string => .string
  | number _ => .number
  | boolean => .boolean
  | date _ => .date
  | enumeration _ => .enumeration

/-- An attribute that holds values. -/
structure Field where
  path : String
  indexPath : String
  kind : FieldKind
  wildcards : Bool
  searchable : Bool
  deriving DecidableEq, Repr

end FilterQuery
