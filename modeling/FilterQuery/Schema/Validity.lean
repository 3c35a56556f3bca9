/-
# FilterQuery.Schema.Validity -- which definitions make sense

`Definition.checkAll` walks the fields of one level in their order and refuses
the first that has a fault: its name is no name or was there before, its index
name is not one segment of a path, it is an object without fields or a field
with some, an enumeration without values, or a number of unknown format.  The
fields of an object are walked when the object is.
-/
import FilterQuery.Expression.Selector
import FilterQuery.Schema.Definition
import FilterQuery.Schema.Fault
import FilterQuery.Text.Blank

namespace FilterQuery

/-- A text that can stand between the dots of an index path. -/
def isIndexName (s : List Char) : Bool :=
  !s.isEmpty && s.all fun c => !Text.isBlank c && c != '.'

/-- A format of numbers, or the fault that there is none of that name. -/
def NumberFormat.ofText (s : String) : Except SchemaFault NumberFormat :=
  match ofText? s with
  | some format => .ok format
  | none => .error (.unknownNumberFormat s)

/-- A path with one more name. -/
def joinPath (parent : Option String) (name : String) : String :=
  match parent with
  | none => name
  | some path => path ++ "." ++ name

namespace Definition

/-- Refuses a field for what it says by itself, its fields apart. -/
def checkPayload (d : Definition) (path : String) : Except SchemaFault Unit :=
  match d.kind with
  | .object => if d.fields.isEmpty then .error (.objectWithoutFields path) else .ok ()
  | .enumeration => if d.values.isEmpty then .error (.enumerationWithoutValues path) else .ok ()
  | .number =>
    match d.format with
    | some format =>
      if (NumberFormat.ofText? format).isSome then .ok () else .error (.numberFormatOf path format)
    | none => .ok ()
  | _ => .ok ()

/-- Refuses a name that is none, or that a field before it has. -/
def checkName (d : Definition) (seen : List String) (path : String) : Except SchemaFault Unit :=
  if !isName d.name.toList then .error (.invalidFieldName d.name)
  else if seen.contains d.name then .error (.duplicateField path)
  else .ok ()

/-- Refuses an index name that is not one segment of a path. -/
def checkIndexName (d : Definition) (path : String) : Except SchemaFault Unit :=
  match d.indexName with
  | some name => if isIndexName name.toList then .ok () else .error (.invalidIndexName name path)
  | none => .ok ()

mutual
/-- Refuses a field with a fault, or with a fault in its own fields. -/
def check (parent : Option String) (seen : List String) : Definition → Except SchemaFault Unit
  | ⟨name, kind, format, values, fields, indexName, searchable, wildcards⟩ => do
    let d : Definition := ⟨name, kind, format, values, fields, indexName, searchable, wildcards⟩
    let path := joinPath parent name
    d.checkName seen path
    d.checkIndexName path
    d.checkPayload path
    if kind = .object then checkAll (some path) [] fields
    else if fields.isEmpty then .ok ()
    else .error (.fieldsOutsideObject path)

/-- Refuses the first field with a fault; `seen` are the names of the fields before. -/
def checkAll (parent : Option String) (seen : List String) :
    List Definition → Except SchemaFault Unit
  | [] => .ok ()
  | d :: ds => do
    check parent seen d
    checkAll parent (d.name :: seen) ds
end

end Definition

end FilterQuery
