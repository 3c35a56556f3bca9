/-
# FilterQuery.Schema.Fault -- why a definition gives no schema

The faults are those of a single field, those of an alias, and those of the
document in which the definition is written; a fault can also say in which file or
that it is in a declaration of the program itself.  The wording is in
`SchemaFault.message` alone.
-/
import FilterQuery.Text.Quoted

namespace FilterQuery

/-- The format in which a schema is written. -/
inductive DocumentFormat where
  | json
  | yaml
  deriving DecidableEq, Repr

/-- Why a definition gives no schema. -/
inductive SchemaFault where
  | unknownNumberFormat (text : String)
  | invalidFieldName (name : String)
  | duplicateField (path : String)
  | invalidIndexName (name path : String)
  | objectWithoutFields (path : String)
  | enumerationWithoutValues (path : String)
  | numberFormatOf (path text : String)
  | fieldsOutsideObject (path : String)
  | invalidAliasName (name : String)
  | aliasShadowsField (name : String)
  | aliasWithoutTarget (name target : String)
  | unreadable (format : DocumentFormat)
  | inFile (name : String) (fault : SchemaFault)
  | inDeclaration (fault : SchemaFault)
  deriving DecidableEq, Repr

namespace SchemaFault

/-- The wording of each fault. -/
def message : SchemaFault → String
  | unknownNumberFormat text => "Invalid number format: " ++ text
  | invalidFieldName name => "Invalid field name: " ++ Text.quotedText name
  | duplicateField path => "Duplicate field " ++ path
  | invalidIndexName name path =>
    "Invalid index name " ++ Text.quotedText name ++ " for field " ++ path
  | objectWithoutFields path => "Object field " ++ path ++ " declares no fields"
  | enumerationWithoutValues path => "Enum field " ++ path ++ " declares no values"
  | numberFormatOf path text => "Field " ++ path ++ ": Invalid number format: " ++ text
  | fieldsOutsideObject path =>
    "Field " ++ path ++ " is not an object but declares nested fields"
  | invalidAliasName name => "Invalid alias name: " ++ Text.quotedText name
  | aliasShadowsField name => "Alias " ++ name ++ " shadows a schema field"
  | aliasWithoutTarget name target => "Alias " ++ name ++ " points to unknown field " ++ target
  | unreadable .json => "Failed to parse JSON schema"
  | unreadable .yaml => "Failed to parse YAML schema"
  | inFile name fault => "Invalid schema file " ++ name ++ ": " ++ fault.message
  | inDeclaration fault => "Invalid schema declaration: " ++ fault.message

end SchemaFault

end FilterQuery
