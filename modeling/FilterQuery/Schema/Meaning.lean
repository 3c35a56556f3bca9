/-
# FilterQuery.Schema.Meaning -- what definitions say, and what schemas make of them

A branch is a definition together with the objects around it, the outermost first.
The names on it make a dotted path, and so do the names in the index.  All branches
of a schema are listed as its definitions are written down, an object in front of
what is in it (`SchemaDefinition.branches`): those that end in an object are the
`objects`, all others the `leaves`.

`SchemaDefinition.Valid` says which definitions make sense.  It asks something of the
definition at the end of each branch (`Definition.Sound`), and of the aliases that
they hide no path and lead to a leaf.

`Schema.Represents` says what a schema has to do with the definition it is made of,
`Schema.Resolves` what comes of a token, and `Schema.Hides` that no token leads into a branch.
-/
import FilterQuery.Schema.Basic
import Mathlib.Data.List.Defs

namespace FilterQuery

/-- A definition and the objects around it. -/
structure Branch where
  above : List Definition
  tip : Definition

namespace Branch

/-- All definitions on a branch, from the outermost one to its tip. -/
def trail (b : Branch) : List Definition :=
  b.above ++ [b.tip]

/-- The names on a branch. -/
def names (b : Branch) : List String :=
  b.trail.map (·.name)

/-- The names on a branch that the index has for them. -/
def indexNames (b : Branch) : List String :=
  b.trail.map (·.nameInIndex)

/-- The dotted path of a branch. -/
def path (b : Branch) : String :=
  ".".intercalate b.names

/-- The dotted path of a branch in the index. -/
def indexPath (b : Branch) : String :=
  ".".intercalate b.indexNames

/-- The branch ends in an object. -/
def isObject (b : Branch) : Bool :=
  b.tip.kind = .object

/-- The field at the end of a branch; an object is none. -/
def field? (b : Branch) : Option Field :=
  b.tip.fieldKind?.map fun kind => ⟨b.path, b.indexPath, kind, b.tip.wildcards, b.tip.searchable⟩

/-- A branch ends at the tip of another or somewhere in it. -/
def IsWithin (b outer : Branch) : Prop :=
  outer.trail <+: b.trail

end Branch

namespace Definition

mutual
/-- The branches to a definition below others, and to all definitions in it. -/
def branches (above : List Definition) : Definition → List Branch
  | ⟨name, kind, format, values, fields, indexName, searchable, wildcards⟩ =>
    let d : Definition := ⟨name, kind, format, values, fields, indexName, searchable, wildcards⟩
    ⟨above, d⟩ :: branchesAll (above ++ [d]) fields

/-- The branches to definitions below others, in their order. -/
def branchesAll (above : List Definition) : List Definition → List Branch
  | [] => []
  | d :: ds => branches above d ++ branchesAll above ds
end

/-- A definition makes sense, its own fields apart but for their names. -/
structure Sound (d : Definition) : Prop where
  /-- It is called by a name. -/
  name : isName d.name.toList = true
  /-- A name in the index is a segment of a path. -/
  indexName : ∀ name ∈ d.indexName, name ≠ "" ∧ ∀ c ∈ name.toList, Text.isBlank c = false ∧ c ≠ '.'
  /-- Objects have fields, and nothing else has. -/
  fields : d.kind = .object ↔ d.fields ≠ []
  /-- Enumerations have members. -/
  values : d.kind = .enumeration → d.values ≠ []
  /-- The format of numbers is one of those that there are. -/
  format : d.kind = .number → ∀ format ∈ d.format, (NumberFormat.ofText? format).isSome
  /-- No two of its fields have the same name. -/
  distinct : (d.fields.map (·.name)).Nodup

end Definition

namespace SchemaDefinition

/-- The branches of a schema. -/
def branches (d : SchemaDefinition) : List Branch :=
  Definition.branchesAll [] d.fields

/-- The branches that end in a field with values. -/
def leaves (d : SchemaDefinition) : List Branch :=
  d.branches.filter (!·.isObject)

/-- The branches that end in an object. -/
def objects (d : SchemaDefinition) : List Branch :=
  d.branches.filter (·.isObject)

/-- A definition of a schema makes sense. -/
structure Valid (d : SchemaDefinition) : Prop where
  /-- No two of the outermost definitions have the same name. -/
  distinct : (d.fields.map (·.name)).Nodup
  /-- Every definition makes sense. -/
  sound : ∀ b ∈ d.branches, b.tip.Sound
  /-- An alias is called by a name. -/
  aliasName : ∀ entry ∈ d.aliases, isName entry.1.toList = true
  /-- An alias is not the path of a leaf or an object. -/
  aliasFresh : ∀ entry ∈ d.aliases, ∀ b ∈ d.branches, b.path ≠ entry.1
  /-- An alias stands for the path of a leaf. -/
  aliasTarget : ∀ entry ∈ d.aliases, ∃ b ∈ d.leaves, b.path = entry.2

/-- A token leads to the field of a leaf: it is the path of the leaf, or an alias for that path. -/
def LeadsTo (d : SchemaDefinition) (token : String) (f : Field) : Prop :=
  ∃ b ∈ d.leaves, b.field? = some f ∧ f.path = b.path ∧
    (b.path = token ∨ d.aliases.lookup token = some b.path)

end SchemaDefinition

namespace Schema

/-- A table that is keyed by paths, with one more field: a field of the same path is replaced where
it stands. -/
def insertField : List Field → Field → List Field
  | [], f => [f]
  | g :: table, f => if g.path = f.path then f :: table else g :: insertField table f

/-- A schema has all that a definition says, and nothing else. -/
structure Represents (s : Schema) (d : SchemaDefinition) : Prop where
  /-- There is one field for each leaf, in the same order. -/
  fields : s.fields.map some = d.leaves.map Branch.field?
  size : s.size = d.leaves.length
  /-- No two fields have the same path, so that a table keyed by paths has room for all. -/
  distinct : (s.fields.map (·.path)).Nodup
  table : s.fields.foldl insertField [] = s.fields
  /-- The index has as many names for a field as the filter. -/
  segments : ∀ f ∈ s.fields,
    (Selector.segments f.indexPath.toList).length = (Selector.segments f.path.toList).length
  /-- There is one path for each object, and it is not the path of a field. -/
  objects : s.objects = d.objects.map Branch.path
  objectsDistinct : s.objects.Nodup
  apart : List.Disjoint s.objects (s.fields.map (·.path))
  aliases : s.aliases = d.aliases

/-- No token is taken for the field at the tip of a branch or for one in it. -/
def Hides (s : Schema) (d : SchemaDefinition) (outer : Branch) : Prop :=
  ∀ token f, s.resolve token = .ok f → ∀ b ∈ d.branches, b.IsWithin outer → b.field? ≠ some f

/-- A text is so similar to a token that it may have been meant. -/
def ResemblesToken (token candidate : String) : Prop :=
  threshold ≤ Text.jaroWinkler token.toList candidate.toList

/-- What comes of a token in the schema of a definition. -/
structure Resolves (s : Schema) (d : SchemaDefinition) (token : String) : Prop where
  /-- It is taken for the field to which it leads, if that can be searched. -/
  found : ∀ f, s.resolve token = .ok f ↔ d.LeadsTo token f ∧ f.searchable = true
  /-- Or else it is refused by its own name, as an unknown field. -/
  refused : ∀ failure, s.resolve token = .error failure → ∃ hint,
    failure = .unknownField token hint ∧
      (hint = some .notSearchable ↔ ∃ f, d.LeadsTo token f ∧ f.searchable = false) ∧
      (hint = some .nestedObject ↔ ∃ b ∈ d.objects, b.path = token) ∧
      (∀ candidate, hint = some (.similar candidate) →
        candidate ∈ s.candidates ∧ ResemblesToken token candidate) ∧
      (hint = none → ∀ candidate ∈ s.candidates, ¬ ResemblesToken token candidate)
  /-- An alias is no path of its own, and leads to a leaf that is no alias in turn. -/
  aliased : ∀ target, d.aliases.lookup token = some target →
    (∀ b ∈ d.branches, b.path ≠ token) ∧
      (∃ b ∈ d.leaves, b.path = target) ∧ d.aliases.lookup target = none
  /-- The selectors are the tokens that are found and are no aliases, in the order of the leaves. -/
  selected : token ∈ s.selectors ↔ d.aliases.lookup token = none ∧ ∃ f, s.resolve token = .ok f
  ordered : s.selectors.Sublist (d.leaves.map Branch.path)
  distinct : s.selectors.Nodup

end Schema

end FilterQuery
