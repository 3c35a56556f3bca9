/-
# FilterQuery.Schema.Basic -- schemas and the fields that tokens name

A schema is made from a definition that makes sense (`ofDefinition`): it lists
the fields that hold values in the order of their definition, objects taken
apart, with dotted paths; the paths of the objects; and the aliases.

`resolve` finds the field of a token, through an alias if it is one.  A token that
names no searchable field is refused, with a hint if there is one: the most
similar of the searchable paths and the aliases, the last of several, if it is
similar enough.
-/
import FilterQuery.Failure
import FilterQuery.Schema.Validity
import FilterQuery.Text.Similarity

namespace FilterQuery

namespace Definition

/-- The format of the numbers of a field; decimal if none is given. -/
def numberFormat (d : Definition) : NumberFormat :=
  (d.format.bind NumberFormat.ofText?).getD .decimal

/-- The kind of a field that holds values; an object holds none. -/
def fieldKind? (d : Definition) : Option FieldKind :=
  match d.kind with
  | .string => some .string
  | .number => some (.number d.numberFormat)
  | .boolean => some .boolean
  | .date => some (.date d.format)
  | .enumeration => some (.enumeration d.values)
  | .object => none

mutual
/-- The fields with values in a definition, below the paths of its parents. -/
def leaves (parent indexParent : Option String) : Definition → List Field
  | ⟨name, kind, format, values, fields, indexName, searchable, wildcards⟩ =>
    let d : Definition := ⟨name, kind, format, values, fields, indexName, searchable, wildcards⟩
    let path := joinPath parent name
    let indexPath := joinPath indexParent d.nameInIndex
    match d.fieldKind? with
    | some kind => [⟨path, indexPath, kind, wildcards, searchable⟩]
    | none => leavesAll (some path) (some indexPath) fields

/-- The fields with values in definitions, in their order. -/
def leavesAll (parent indexParent : Option String) : List Definition → List Field
  | [] => []
  | d :: ds => leaves parent indexParent d ++ leavesAll parent indexParent ds
end

mutual
/-- The paths of the objects in a definition. -/
def objectPaths (parent : Option String) : Definition → List String
  | ⟨name, kind, _, _, fields, _, _, _⟩ =>
    let path := joinPath parent name
    if kind = .object then path :: objectPathsAll (some path) fields else []

/-- The paths of the objects in definitions. -/
def objectPathsAll (parent : Option String) : List Definition → List String
  | [] => []
  | d :: ds => objectPaths parent d ++ objectPathsAll parent ds
end

end Definition

/-- The fields of a document type. -/
structure Schema where
  fields : List Field
  objects : List String
  aliases : List (String × String)
  deriving DecidableEq, Repr

namespace Schema

/-- The field with a path. -/
def field? (s : Schema) (path : String) : Option Field :=
  s.fields.find? (·.path == path)

/-- Refuses an alias that is no name, that hides a path, or that leads to no field. -/
def checkAlias (s : Schema) : String × String → Except SchemaFault Unit
  | (name, target) =>
    if !isName name.toList then .error (.invalidAliasName name)
    else if (s.field? name).isSome || s.objects.contains name then .error (.aliasShadowsField name)
    else if (s.field? target).isNone then .error (.aliasWithoutTarget name target)
    else .ok ()

/-- The schema of a definition, whether that makes sense or not. -/
def unchecked (d : SchemaDefinition) : Schema :=
  ⟨Definition.leavesAll none none d.fields, Definition.objectPathsAll none d.fields, d.aliases⟩

/-- The schema of a definition that makes sense. -/
def ofDefinition (d : SchemaDefinition) : Except SchemaFault Schema := do
  Definition.checkAll none [] d.fields
  let schema := unchecked d
  schema.aliases.forM schema.checkAlias
  return schema

/-- The schema that a program declares for its own documents. -/
def ofDeclaration (d : SchemaDefinition) : Except SchemaFault Schema :=
  (ofDefinition d).mapError .inDeclaration

/-- The number of fields. -/
def size (s : Schema) : Nat :=
  s.fields.length

/-- There are no fields. -/
def isEmpty (s : Schema) : Bool :=
  s.fields.isEmpty

/-- The paths of the fields that can be searched, in their order. -/
def selectors (s : Schema) : List String :=
  (s.fields.filter (·.searchable)).map (·.path)

/-! ## Tokens -/

/-- What may have been meant by a token that names nothing. -/
def candidates (s : Schema) : List String :=
  s.selectors ++ s.aliases.map (·.1)

/-- From which similarity on a candidate is worth a hint. -/
def threshold : Float := 0.85

/-- The last of the candidates that are the most similar to a token, among those that are similar
enough. -/
def mostSimilar? (s : Schema) (token : String) : Option String :=
  let scored := s.candidates.map fun candidate =>
    (candidate, Text.jaroWinkler token.toList candidate.toList)
  let best := (scored.filter (threshold ≤ ·.2)).foldl (fun best scored =>
    match best with
    | none => some scored
    | some (candidate, score) =>
      if score ≤ scored.2 then some scored else some (candidate, score)) none
  best.map (·.1)

/-- The path to which a token leads: the target of an alias, or the token itself. -/
def pathOf (s : Schema) (token : String) : String :=
  (s.aliases.lookup token).getD token

/-- The field that a token names. -/
def resolve (s : Schema) (token : String) : Except Failure Field :=
  let path := s.pathOf token
  match s.field? path with
  | some field =>
    if field.searchable then .ok field else .error (.unknownField token (some .notSearchable))
  | none =>
    if s.objects.contains path then .error (.unknownField token (some .nestedObject))
    else .error (.unknownField token ((s.mostSimilar? token).map .similar))

end Schema

end FilterQuery
