/-
# FilterQuery.Clause.Codec -- the JSON form of clauses that is read back

Every value, clause and keyword is tagged with what it is:

    { "term": { "field": …, "value": { "text": … } } }
    { "range": { "field": …, "op": "gte", "value": { "integer": … } } }
    { "bool": { "mode": "must", "children": [ … ] } }

Reading asks for exactly one tag, ignores keys that it does not know in the body
of a clause, and takes the keyword of a mode or bound also as a key over `null`.
Whole numbers are read as doubles where a double is asked for.  JSON has no word
for an infinity, which is written as `null` and not read: `isStorable` tells the
values and the clauses without one.  Values are of one kind (`Value.SameKind`) if
they are written under one tag (`Value.tag`).
-/
import FilterQuery.Calendar.Pattern
import FilterQuery.Clause.Basic
import FilterQuery.Document.Json

namespace FilterQuery

namespace Value

/-- A value under its tag. -/
def encode : Value → Json
  | .text s => .object [("text", .text s)]
  | .pattern s => .object [("pattern", .text s)]
  | .integer n => .object [("integer", .integer n.toInt)]
  | .float x => .object [("float", if Number.Double.isFinite x then .float x else .null)]
  | .boolean b => .object [("boolean", .boolean b)]
  | .date t => .object [("date", .text t.print)]
  | .member s => .object [("enum", .text s)]

/-- The value is not a double that JSON has no number for. -/
def isStorable : Value → Bool
  | .float x => Number.Double.isFinite x
  | _ => true

/-- The tag under which a value is written. -/
def tag : Value → String
  | .text _ => "text"
  | .pattern _ => "pattern"
  | .integer _ => "integer"
  | .float _ => "float"
  | .boolean _ => "boolean"
  | .date _ => "date"
  | .member _ => "enum"

/-- Both values are of one kind. -/
def SameKind : Value → Value → Prop
  | .text _, .text _ | .pattern _, .pattern _ | .integer _, .integer _ | .float _, .float _ => True
  | .boolean _, .boolean _ | .date _, .date _ | .member _, .member _ => True
  | _, _ => False

/-- A double, or a whole number as the nearest one. -/
def decodeFloat? : Json → Option Float
  | .float x => some x
  | .integer n => some (Number.Double.nearest (n < 0) n.natAbs 1)
  | _ => none

/-- A whole number of 64 bits. -/
def decodeInteger? : Json → Option Int64
  | .integer n => if Number.fitsInt64 n then some (.ofInt n) else none
  | _ => none

/-- A truth value. -/
def decodeBoolean? : Json → Option Bool
  | .boolean b => some b
  | _ => none

/-- A timestamp. -/
def decodeDate? : Json → Option Calendar.Timestamp
  | .text s => Calendar.readRelaxed? s.toList
  | _ => none

/-- The value of a tag and what it tags. -/
def decodeTagged? (tag : String) (body : Json) : Option Value :=
  match tag with
  | "text" => body.text?.map .text
  | "pattern" => body.text?.map .pattern
  | "integer" => (decodeInteger? body).map .integer
  | "float" => (decodeFloat? body).map .float
  | "boolean" => (decodeBoolean? body).map .boolean
  | "date" => (decodeDate? body).map .date
  | "enum" => body.text?.map .member
  | _ => none

/-- The value under its tag. -/
def decode? (json : Json) : Option Value := do
  let (tag, body) ← json.single?
  decodeTagged? tag body

end Value

namespace Clause

mutual
/-- A clause under its tag. -/
def encode : Clause → Json
  | .term field value =>
    .object [("term", .object [("field", .text field), ("value", value.encode)])]
  | .range field bound value =>
    .object [("range", .object
      [("field", .text field), ("op", .text bound.keyword), ("value", value.encode)])]
  | .group mode children =>
    .object [("bool", .object
      [("mode", .text mode.keyword), ("children", .array (encodeAll children))])]

/-- Clauses under their tags. -/
def encodeAll : List Clause → List Json
  | [] => []
  | c :: cs => encode c :: encodeAll cs
end

mutual
/-- Every value of the clause can be stored. -/
def isStorable : Clause → Bool
  | .term _ value | .range _ _ value => value.isStorable
  | .group _ children => areStorable children

/-- Every value of the clauses can be stored. -/
def areStorable : List Clause → Bool
  | [] => true
  | c :: cs => c.isStorable && areStorable cs
end

/-- The term clause of a body. -/
def decodeTerm? (body : Json) : Option Clause := do
  let entries ← body.entries?
  let field ← Document.required entries "field" Json.text?
  let value ← Document.required entries "value" Value.decode?
  some (.term field value)

/-- The range clause of a body. -/
def decodeRange? (body : Json) : Option Clause := do
  let entries ← body.entries?
  let field ← Document.required entries "field" Json.text?
  let bound ← Document.required entries "op" fun json => do Bound.ofKeyword? (← json.word?)
  let value ← Document.required entries "value" Value.decode?
  some (.range field bound value)

/-- The mode in the body of a group. -/
def decodeMode? (entries : List (String × Json)) : Option Mode :=
  Document.required entries "mode" fun json => do Mode.ofKeyword? (← json.word?)

mutual
/-- The clause under its tag. -/
def decode? : Json → Option Clause
  | .object [("term", body)] => decodeTerm? body
  | .object [("range", body)] => decodeRange? body
  | .object [("bool", .object entries)] =>
    match decodeMode? entries, decodeChildren? entries with
    | some mode, some children => some (.group mode children)
    | _, _ => none
  | _ => none

/-- The children in the body of a group. -/
def decodeChildren? : List (String × Json) → Option (List Clause)
  | [] => none
  | ("children", .array items) :: _ => decodeAll? items
  | (key, _) :: entries => if key = "children" then none else decodeChildren? entries

/-- Clauses under their tags. -/
def decodeAll? : List Json → Option (List Clause)
  | [] => some []
  | json :: jsons =>
    match decode? json, decodeAll? jsons with
    | some c, some cs => some (c :: cs)
    | _, _ => none
end

end Clause

end FilterQuery
