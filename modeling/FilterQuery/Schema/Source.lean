/-
# FilterQuery.Schema.Source -- schemas and settings from texts and files

A schema can be written in JSON or in YAML, settings in YAML.  A file is read as
JSON if the extension of its name is `json` in whatever case, and as YAML if it is
not; a point at the beginning of a name does not begin an extension.
-/
import FilterQuery.Document.Json
import FilterQuery.Document.Schema
import FilterQuery.Document.Yaml
import FilterQuery.Json.Reader
import FilterQuery.Schema.Basic
import FilterQuery.Yaml.Reader

namespace FilterQuery

namespace Schema

/-- The schema in a document of which a text was made, or of which none could be made. -/
def ofDocument? {α : Type} [Document α] (format : DocumentFormat) (document : Option α) :
    Except SchemaFault Schema :=
  match document.bind Document.schema? with
  | some definition => ofDefinition definition
  | none => .error (.unreadable format)

/-- The schema that a JSON text defines. -/
def ofJson (text : String) : Except SchemaFault Schema :=
  ofDocument? .json (Json.read? text)

/-- The schema that a YAML text defines. -/
def ofYaml (text : String) : Except SchemaFault Schema :=
  ofDocument? .yaml (Yaml.read? text)

/-- The extension of the name of a file: what follows its last point, unless the name begins with
that. -/
def extension? (name : String) : Option String :=
  let reversed := name.toList.reverse
  match reversed.dropWhile (· != '.') with
  | '.' :: _ :: _ => some (String.ofList (reversed.takeWhile (· != '.')).reverse)
  | _ => none

/-- The format in which a file is written. -/
def formatOf (name : String) : DocumentFormat :=
  if (extension? name).any fun e => e.map Char.toLower == "json" then .json else .yaml

/-- The schema that the file `name` with the given contents defines. -/
def ofFile (name contents : String) : Except SchemaFault Schema :=
  let schema := match formatOf name with
    | .json => ofJson contents
    | .yaml => ofYaml contents
  schema.mapError (.inFile name)

end Schema

namespace Settings

/-- The settings that a YAML text gives, if they can be used. -/
def ofYaml (text : String) : Except SettingsFault Settings :=
  match (Yaml.read? text).bind Document.settings? with
  | some settings => do
    settings.check
    return settings
  | none => .error .unreadable

end Settings

end FilterQuery
