/-
# FilterQuery.Schema.Reordering -- definitions whose aliases come in another order

Aliases are a table without an order of its own.  `SchemaDefinition.Reordered` says that two
definitions have the same table and come by its aliases in two orders, and `Schema.SameResult` that
they give the same schema, or are refused for the same fault.

There are two places where the order shows.  Of several aliases that make no sense one is named
(`SchemaDefinition.RefusesTwo`), and of several that a token is most similar to one is suggested
(`Schema.Tied`).
-/
import FilterQuery.Schema.Meaning

namespace FilterQuery

namespace SchemaDefinition

/-- The same fields, and the same aliases in another order. -/
structure Reordered (d d' : SchemaDefinition) : Prop where
  fields : d.fields = d'.fields
  aliases : d.aliases.Perm d'.aliases

/-- The fields make sense, but two of the aliases do not, each by itself. -/
def RefusesTwo (d : SchemaDefinition) : Prop :=
  (SchemaDefinition.mk [] d.fields).Valid ∧ ∃ a ∈ d.aliases, ∃ b ∈ d.aliases, a.1 ≠ b.1 ∧
    ¬ (SchemaDefinition.mk [a] d.fields).Valid ∧ ¬ (SchemaDefinition.mk [b] d.fields).Valid

end SchemaDefinition

namespace Schema

/-- Equal but for the order of the aliases. -/
structure SameTables (s s' : Schema) : Prop where
  fields : s.fields = s'.fields
  objects : s.objects = s'.objects
  aliases : s.aliases.Perm s'.aliases

/-- Two schemas with the same tables, or one fault. -/
inductive SameResult : Except SchemaFault Schema → Except SchemaFault Schema → Prop where
  | made {s s' : Schema} : s.SameTables s' → SameResult (.ok s) (.ok s')
  | refused (fault : SchemaFault) : SameResult (.error fault) (.error fault)

/-- A candidate that is similar enough, and no less similar than the others. -/
structure MostSimilar (s : Schema) (token candidate : String) : Prop where
  isCandidate : candidate ∈ s.candidates
  resembles : ResemblesToken token candidate
  most : ∀ other ∈ s.candidates, ResemblesToken token other →
    Text.jaroWinkler token.toList other.toList ≤ Text.jaroWinkler token.toList candidate.toList

/-- The token names nothing, and two aliases are most similar to it. -/
structure Tied (s : Schema) (token : String) : Prop where
  noField : s.field? (s.pathOf token) = none
  noObject : s.pathOf token ∉ s.objects
  aliases : ∃ a ∈ s.aliases, ∃ b ∈ s.aliases, a.1 ≠ b.1 ∧
    s.MostSimilar token a.1 ∧ s.MostSimilar token b.1

end Schema

end FilterQuery
