/-
# FilterQuery.Text.Blank -- white space and trimming

A character is *blank* when the Unicode property White_Space holds of it.  The
grammar of filters, date formats and index names all use this one class.

* `dropBlank` removes the blanks at the front, `trim` those at both ends.
* `dropBlank_cons_of_blank`, `dropBlank_cons_of_not_blank`: one step of `dropBlank`.
-/

namespace FilterQuery.Text

/-- The property White_Space, by code point. -/
def isBlank (c : Char) : Bool :=
  let n := c.toNat
  (9 ≤ n && n ≤ 13) || n == 0x20 || n == 0x85 || n == 0xA0 || n == 0x1680 ||
    (0x2000 ≤ n && n ≤ 0x200A) || n == 0x2028 || n == 0x2029 || n == 0x202F ||
    n == 0x205F || n == 0x3000

/-- What is left of `s` after the blanks at its front. -/
def dropBlank (s : List Char) : List Char :=
  s.dropWhile isBlank

/-- The text without the blanks at its two ends. -/
def trim (s : List Char) : List Char :=
  (dropBlank (dropBlank s).reverse).reverse

/-- The number of bytes that a text takes in UTF-8. -/
def byteLength : List Char → Nat
  | [] => 0
  | c :: s => c.utf8Size + byteLength s

theorem byteLength_append (s t : List Char) :
    byteLength (s ++ t) = byteLength s + byteLength t := by
  induction s with
  | nil => simp [byteLength]
  | cons c s ih => simp [byteLength, ih, Nat.add_assoc]

theorem utf8ByteSize_ofList (s : List Char) : (String.ofList s).utf8ByteSize = byteLength s := by
  induction s with
  | nil => rfl
  | cons c s ih =>
    rw [String.ofList_cons, String.utf8ByteSize_append, String.utf8ByteSize_singleton, ih,
      byteLength]

@[simp] theorem dropBlank_nil : dropBlank [] = [] := rfl

theorem dropBlank_cons_of_blank {c : Char} {s : List Char} (h : isBlank c = true) :
    dropBlank (c :: s) = dropBlank s := by
  simp [dropBlank, h]

theorem dropBlank_cons_of_not_blank {c : Char} {s : List Char} (h : isBlank c = false) :
    dropBlank (c :: s) = c :: s := by
  simp [dropBlank, h]

theorem dropBlank_length_le (s : List Char) : (dropBlank s).length ≤ s.length :=
  (List.dropWhile_suffix isBlank).length_le

end FilterQuery.Text
