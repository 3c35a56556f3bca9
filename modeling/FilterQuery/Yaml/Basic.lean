/-
# FilterQuery.Yaml.Basic -- nodes of YAML documents

A scalar keeps its text and whether it was written without quotes, for only then can
its text stand for something other than itself.
-/

namespace FilterQuery

/-- A node of a YAML document. -/
inductive Yaml where
  | scalar (plain : Bool) (text : String)
  | sequence (items : List Yaml)
  | mapping (entries : List (Yaml × Yaml))

/-- The node that stands where nothing is written. -/
def Yaml.nothing : Yaml :=
  .scalar true ""

end FilterQuery
