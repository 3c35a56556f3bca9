/-
# FilterQuery.Text.Front -- a token at the front of a text

`after? token s` is what follows `token` when `s` begins with it.
`after?_eq_some_iff`: taking a token away undoes writing it in front.
-/

namespace FilterQuery.Text

/-- What follows `token` at the front of a text, if it stands there. -/
def after? : (token s : List Char) → Option (List Char)
  | [], s => some s
  | _ :: _, [] => none
  | c :: token, d :: s => if c == d then after? token s else none

theorem after?_append (token rest : List Char) : after? token (token ++ rest) = some rest := by
  induction token with
  | nil => rfl
  | cons c token ih => simp [after?, ih]

theorem after?_eq_some_iff {token s rest : List Char} :
    after? token s = some rest ↔ s = token ++ rest := by
  constructor
  · intro h
    fun_induction after? token s with
    | case1 => simpa using h
    | case2 => cases h
    | case3 c token d s same ih => simp [beq_iff_eq.mp same, ih h]
    | case4 => cases h
  · rintro rfl
    exact after?_append token rest

end FilterQuery.Text
