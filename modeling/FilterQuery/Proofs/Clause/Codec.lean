/-
# FilterQuery.Proofs.Clause.Codec -- the JSON form of clauses is read back

A value is read back from its JSON form if JSON can hold it, and from the form of
an infinity nothing is read (`Value.decode?_encode`).  So is a clause, however it is
nested: `decode?_term` and `decode?_range` are its leaves, `decode?_group` a group
over any list of children, and `decode?_encode` puts them together by recursion on
the clause and the list of its children.

Only the tag tells values of different kinds apart, since four kinds write a string
and two a number.  The tags are distinct (`Value.tag_eq_iff`), and reading goes by
the tag alone (`Value.tag_of_decode?`).
-/
import FilterQuery.Clause.Codec
import FilterQuery.Proofs.Calendar.Relaxed

namespace FilterQuery

/-! ## Values -/

namespace Value

theorem decodeInteger?_toInt (n : Int64) : decodeInteger? (.integer n.toInt) = some n := by
  rw [decodeInteger?, if_pos (Number.fitsInt64_toInt n), Int64.ofInt_toInt]

theorem decodeDate?_print (t : Calendar.Timestamp) : decodeDate? (.text t.print) = some t :=
  Calendar.readRelaxed?_print t

theorem decode?_tagged (tag : String) (body : Json) :
    decode? (.object [(tag, body)]) = decodeTagged? tag body := rfl

theorem decode?_encode (v : Value) :
    decode? v.encode = if v.isStorable then some v else none := by
  cases v with
  | text s => rfl
  | pattern s => rfl
  | boolean b => rfl
  | member s => rfl
  | integer n => simp [encode, decode?_tagged, decodeTagged?, decodeInteger?_toInt, isStorable]
  | date t => simp [encode, decode?_tagged, decodeTagged?, decodeDate?_print, isStorable]
  | float x =>
    by_cases finite : Number.Double.isFinite x <;>
      simp [encode, finite, isStorable, decode?_tagged, decodeTagged?, decodeFloat?]

theorem tag_eq_iff (v v' : Value) : v.tag = v'.tag ↔ v.SameKind v' := by
  cases v <;> cases v' <;> simp [tag, SameKind]

theorem tag_of_encode {v : Value} {tag : String} {body : Json}
    (written : v.encode = .object [(tag, body)]) : v.tag = tag := by
  cases v <;> simp_all [encode, Value.tag]

theorem tag_of_decode? {v : Value} {tag : String} {body : Json}
    (read : decode? (.object [(tag, body)]) = some v) : v.tag = tag := by
  rw [decode?_tagged, decodeTagged?.eq_def] at read
  split at read <;> simp only [Option.map_eq_some_iff, reduceCtorEq] at read <;>
    obtain ⟨_, _, rfl⟩ := read <;> rfl

end Value

/-! ## Clauses -/

namespace Clause

theorem decode?_term (field : String) (value : Value) :
    decode? (encode (.term field value)) =
      if value.isStorable then some (.term field value) else none := by
  have read := value.decode?_encode
  by_cases storable : value.isStorable <;>
    simp_all [encode, decode?, decodeTerm?, Document.required, Document.valuesOf, Json.entries?,
      Json.text?]

theorem decode?_range (field : String) (bound : Bound) (value : Value) :
    decode? (encode (.range field bound value)) =
      if value.isStorable then some (.range field bound value) else none := by
  have read := value.decode?_encode
  by_cases storable : value.isStorable <;>
    simp_all [encode, decode?, decodeRange?, Document.required, Document.valuesOf, Json.entries?,
      Json.text?, Json.word?, Bound.ofKeyword?_keyword]

theorem decode?_group (mode : Mode) (children : List Clause) :
    decode? (encode (.group mode children)) =
      (decodeAll? (encodeAll children)).map (.group mode) := by
  have read : decodeMode? [("mode", .text mode.keyword),
      ("children", .array (encodeAll children))] = some mode := by
    simp [decodeMode?, Document.required, Document.valuesOf, Json.word?, Mode.ofKeyword?_keyword]
  have found : decodeChildren? [("mode", .text mode.keyword),
      ("children", .array (encodeAll children))] = decodeAll? (encodeAll children) := by
    simp [decodeChildren?]
  rw [encode, decode?, read, found]
  cases decodeAll? (encodeAll children) <;> rfl

mutual
theorem decode?_encode : ∀ c : Clause, decode? c.encode = if c.isStorable then some c else none
  | .term field value => decode?_term field value
  | .range field bound value => decode?_range field bound value
  | .group mode children => by
    rw [decode?_group, decodeAll?_encodeAll children, isStorable]
    cases areStorable children <;> rfl

theorem decodeAll?_encodeAll : ∀ cs : List Clause,
    decodeAll? (encodeAll cs) = if areStorable cs then some cs else none
  | [] => rfl
  | c :: cs => by
    rw [encodeAll, decodeAll?, decode?_encode c, decodeAll?_encodeAll cs, areStorable]
    cases c.isStorable <;> cases areStorable cs <;> rfl
end

/-- **The JSON form of a clause is read back as that clause**, unless one of its values is an
infinity or no number, which JSON cannot hold; then nothing is read.  So a clause that is read back
shares its form with no other clause.  Values of different kinds never have one form, and what is
read under the tag of a value is a value of its kind. -/
theorem encode_faithful :
    (∀ c : Clause, decode? c.encode = if c.isStorable then some c else none) ∧
      (∀ c c' : Clause, c.isStorable → c.encode = c'.encode → c = c') ∧
      (∀ v v' : Value, v.encode = v'.encode → v.SameKind v') ∧
      ∀ (v v' : Value) (tag : String) (body body' : Json), v.encode = .object [(tag, body)] →
        Value.decode? (.object [(tag, body')]) = some v' → v'.SameKind v := by
  refine ⟨decode?_encode, ?_, ?_, ?_⟩
  · intro c c' storable same
    have own : decode? c.encode = some c := (decode?_encode c).trans (if_pos storable)
    have other := decode?_encode c'
    rw [← same, own] at other
    split at other
    · exact Option.some.inj other
    · cases other
  · intro v v' same
    rw [← Value.tag_eq_iff]
    cases v' <;> exact Value.tag_of_encode same
  · intro v v' tag body body' written read
    rw [← Value.tag_eq_iff, Value.tag_of_encode written, Value.tag_of_decode? read]

/-- A string may be text, pattern or member, alone or in a group beside an empty one, and has
another form as each of them. -/
theorem encode_faithful_strings :
    let group (value : Value) : Clause := .group .mustNot [.term "a" value, .group .should []]
    decode? (group (.text "x")).encode = some (group (.text "x")) ∧
      (group (.text "x")).encode ≠ (group (.pattern "x")).encode ∧
      (Value.member "x").encode ≠ (Value.text "x").encode ∧
      (Value.pattern "y").SameKind (.pattern "x") := by
  intro group
  obtain ⟨readBack, injective, kinds, tagged⟩ := encode_faithful
  refine ⟨(readBack _).trans (if_pos rfl), fun same => ?_, kinds _ _, ?_⟩
  · have equal := injective _ _ rfl same
    simp [group] at equal
  · exact tagged (.pattern "x") (.pattern "y") "pattern" (.text "x") (.text "y") rfl rfl

end Clause

end FilterQuery
