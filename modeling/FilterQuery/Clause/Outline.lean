/-
# FilterQuery.Clause.Outline -- what a query shows of its clause

A query shows the groups of its clause with their modes, the fields that are asked for, and the
bounds of ranges.  Of a value it shows what JSON does; that a value is a pattern is shown by a term
and not by a range.

`Outline` is a clause of which nothing else is left.  `Clause.outline` forgets the rest,
`Outline.ofQuery?` reads the outline off a query, and `Clause.Alike` compares two clauses in all
that is left, node by node.
-/
import FilterQuery.Clause.Elasticsearch
import Mathlib.Data.List.Defs

namespace FilterQuery

/-- A clause with JSON in place of its values. -/
inductive Outline where
  | term (isPattern : Bool) (field : String) (value : Json)
  | range (field : String) (bound : Bound) (value : Json)
  | group (mode : Mode) (children : List Outline)

namespace Clause

mutual
/-- The clause without the kinds of its values. -/
def outline : Clause → Outline
  | .term field value => .term value.isPattern field value.toJson
  | .range field bound value => .range field bound value.toJson
  | .group mode children => .group mode (outlines children)

/-- The clauses without the kinds of their values. -/
def outlines : List Clause → List Outline
  | [] => []
  | c :: cs => outline c :: outlines cs
end

/-- Two clauses are the same tree, but that a value may be of another kind if JSON shows it in the
same way; only a pattern in a term is no other text. -/
inductive Alike : Clause → Clause → Prop where
  | term {field : String} {value value' : Value} :
      value.isPattern = value'.isPattern → value.toJson = value'.toJson →
      Alike (.term field value) (.term field value')
  | range {field : String} {bound : Bound} {value value' : Value} :
      value.toJson = value'.toJson → Alike (.range field bound value) (.range field bound value')
  | group {mode : Mode} {children children' : List Clause} :
      List.Forall₂ Alike children children' → Alike (.group mode children) (.group mode children')

end Clause

namespace Outline

mutual
/-- The outline of the clause that a query renders.  Keys that are keywords stand at other places
than keys that are fields, so a field may be called by a keyword. -/
def ofQuery? : Json → Option Outline
  | .object [("wildcard", .object [(field, .object [("value", value)])])] =>
    some (.term true field value)
  | .object [("term", .object [(field, value)])] => some (.term false field value)
  | .object [("range", .object [(field, .object [(keyword, value)])])] =>
    (Bound.ofKeyword? keyword).map (.range field · value)
  | .object [("bool", .object [(keyword, .array items)])] =>
    match Mode.ofKeyword? keyword, ofQueries? items with
    | some mode, some children => some (.group mode children)
    | _, _ => none
  | _ => none

/-- The outlines of the clauses that queries render. -/
def ofQueries? : List Json → Option (List Outline)
  | [] => some []
  | query :: queries =>
    match ofQuery? query, ofQueries? queries with
    | some o, some os => some (o :: os)
    | _, _ => none
end

end Outline

end FilterQuery
