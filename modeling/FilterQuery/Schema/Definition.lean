/-
# FilterQuery.Schema.Definition -- schemas as they are written down

A definition lists the fields of a document type, objects with their own fields
among them, and names aliases for some of them.  It is what a schema file says
or what a program builds, and not checked yet: a field may carry what has no
meaning for its kind.
-/
import FilterQuery.Schema.Field

namespace FilterQuery

/-- The kind that a definition gives to a field. -/
inductive DefinitionKind where
  | string
  | number
  | boolean
  | date
  | enumeration
  | object
  deriving DecidableEq, Repr

/-- The kind of a name. -/
def DefinitionKind.ofText? : String → Option DefinitionKind
  | "string" => some string
  | "number" => some number
  | "boolean" => some boolean
  | "date" => some date
  | "enum" => some enumeration
  | "object" => some object
  | _ => none

/-- The definition of a field, or of an object with fields. -/
structure Definition where
  name : String
  kind : DefinitionKind
  format : Option String
  values : List String
  fields : List Definition
  indexName : Option String
  searchable : Bool
  wildcards : Bool

namespace Definition

/-- A field with nothing but a name and a kind. -/
def plain (name : String) (kind : DefinitionKind) : Definition :=
  ⟨name, kind, none, [], [], none, true, true⟩

/-- A field with texts. -/
def string (name : String) : Definition :=
  plain name .string

/-- A field with numbers. -/
def number (name : String) (format : NumberFormat) : Definition :=
  { plain name .number with format := some format.name }

/-- A field with truth values. -/
def boolean (name : String) : Definition :=
  plain name .boolean

/-- A field with dates. -/
def date (name : String) : Definition :=
  plain name .date

/-- A field whose values are the members of an enumeration. -/
def enumeration (name : String) (members : List String) : Definition :=
  { plain name .enumeration with values := members }

/-- An object with fields of its own. -/
def object (name : String) (fields : List Definition) : Definition :=
  { plain name .object with fields := fields }

/-- The same definition with a format. -/
def withFormat (d : Definition) (format : String) : Definition :=
  { d with format := some format }

/-- The same definition under another name in the index. -/
def withIndexName (d : Definition) (name : String) : Definition :=
  { d with indexName := some name }

/-- The same definition, closed to searches. -/
def notSearchable (d : Definition) : Definition :=
  { d with searchable := false }

/-- The same definition, closed to wildcards. -/
def withoutWildcards (d : Definition) : Definition :=
  { d with wildcards := false }

/-- The name of the field in the index. -/
def nameInIndex (d : Definition) : String :=
  d.indexName.getD d.name

end Definition

/-- The definition of a schema. -/
structure SchemaDefinition where
  aliases : List (String × String)
  fields : List Definition

namespace SchemaDefinition

/-- Nothing is defined. -/
def empty : SchemaDefinition :=
  ⟨[], []⟩

/-- A table with one more entry; an entry of the same name is replaced where it stands. -/
def insertAlias (name target : String) : List (String × String) → List (String × String)
  | [] => [(name, target)]
  | (other, old) :: rest =>
    if other == name then (name, target) :: rest
    else (other, old) :: insertAlias name target rest

/-- The definition with one more field. -/
def withField (d : SchemaDefinition) (field : Definition) : SchemaDefinition :=
  { d with fields := d.fields ++ [field] }

/-- The definition with one more alias. -/
def withAlias (d : SchemaDefinition) (name target : String) : SchemaDefinition :=
  { d with aliases := insertAlias name target d.aliases }

end SchemaDefinition

end FilterQuery
