/-
# FilterQuery.Document.Schema -- schemas and settings out of documents

The keys of a field are its name and kind, which it must have, and format,
values, fields, index name and two switches, which it may have.  The keys of a
schema are its aliases, which it may have, and its fields, which it must have;
of two aliases of one name the last counts.  All keys of settings may be missing.
-/
import FilterQuery.Document.Basic
import FilterQuery.Schema.Definition
import FilterQuery.Settings

namespace FilterQuery.Document

variable {α : Type} [Document α]

/-- The keys of a field. -/
def fieldKeys : List String :=
  ["name", "kind", "format", "values", "fields", "index_name", "searchable", "wildcards"]

/-- A field, in at most `levels` containers. -/
def definition? (levels : Nat) (node : α) : Option Definition :=
  match levels with
  | 0 => none
  | levels + 1 => do
    let entries ← entries? fieldKeys node
    let name ← required entries "name" text?
    let kind ← required entries "kind" fun node => do DefinitionKind.ofText? (← word? levels node)
    let format ← withDefault entries "format" none optionalText?
    let values ← withDefault entries "values" [] (list? levels text?)
    let fields ← withDefault entries "fields" [] fun node =>
      match levels with
      | 0 => none
      | levels + 1 => do (← items? node).mapM (definition? levels)
    let indexName ← withDefault entries "index_name" none optionalText?
    let searchable ← withDefault entries "searchable" true flag?
    let wildcards ← withDefault entries "wildcards" true flag?
    some ⟨name, kind, format, values, fields, indexName, searchable, wildcards⟩

/-- A table of aliases. -/
def aliases? (node : α) : Option (List (String × String)) := do
  (← table? node).foldlM (fun table (name, target) => do
    return SchemaDefinition.insertAlias name (← text? target) table) []

/-- The definition of a schema. -/
def schema? (node : α) : Option SchemaDefinition := do
  let entries ← entries? ["aliases", "fields"] node
  let aliases ← withDefault entries "aliases" [] aliases?
  let fields ← required entries "fields" (list? 1 (definition? (levels α - 2)))
  some ⟨aliases, fields⟩

/-- Settings; those that are not there have their defaults. -/
def settings? (node : α) : Option Settings := do
  let entries ← entries? ["max_depth", "wildcard", "date_formats"] node
  let maxDepth ← withDefault entries "max_depth" Settings.default.maxDepth natural?
  let wildcard ← withDefault entries "wildcard" Settings.default.wildcard character?
  let datePatterns ←
    withDefault entries "date_formats" Settings.default.datePatterns (list? 1 text?)
  some ⟨maxDepth, wildcard, datePatterns⟩

end FilterQuery.Document
