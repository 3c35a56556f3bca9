/-
# FilterQuery.Proofs.Number.Order -- how doubles compare

Every double that is a number has a rank, by its sign, its exponent and its significand, infinity
beyond all others (`rank?`).  Doubles are compared by their ranks (`le_iff_rank?`), and ranks are
lexicographic: so comparing is transitive (`double_le_trans`), and any two doubles that are numbers
can be compared (`double_le_total`).
-/
import FilterQuery.Number.Double

namespace FilterQuery.Number

open Float.Model (UnpackedFloat)

/-! ## Ranks -/

/-- The side of zero and, away from zero, the place on it. -/
structure Rank where
  side : Int
  exponent : Int
  significand : Int

/-- Lexicographic order. -/
def Rank.AtMost (a b : Rank) : Prop :=
  a.side < b.side ∨ a.side = b.side ∧ (a.exponent < b.exponent ∨
    a.exponent = b.exponent ∧ a.significand ≤ b.significand)

theorem Rank.AtMost.trans {a b c : Rank} (h : a.AtMost b) (h' : b.AtMost c) : a.AtMost c := by
  unfold AtMost at *
  omega

theorem Rank.atMost_total (a b : Rank) : a.AtMost b ∨ b.AtMost a := by
  unfold AtMost
  omega

/-- The rank of a number; the two zeros have the same. -/
def rank? : UnpackedFloat → Option Rank
  | .notANumber => none
  | .infinity .negative => some ⟨-2, 0, 0⟩
  | .finite .negative significand exponent _ => some ⟨-1, -exponent, -significand⟩
  | .zero _ => some ⟨0, 0, 0⟩
  | .finite .positive significand exponent _ => some ⟨1, exponent, significand⟩
  | .infinity .positive => some ⟨2, 0, 0⟩

theorem isLE_then_compare (a b : Int) (m n : Nat) :
    ((compare a b).then (compare m n)).isLE = true ↔ a < b ∨ a = b ∧ m ≤ n := by
  rcases Int.lt_trichotomy a b with less | rfl | more
  · simp [Int.compare_eq_lt.mpr less, less]
  · simp [Nat.isLE_compare]
  · simp [Int.compare_eq_gt.mpr more]
    omega

theorem isGE_then_compare (a b : Int) (m n : Nat) :
    ((compare a b).then (compare m n)).isGE = true ↔ b < a ∨ a = b ∧ n ≤ m := by
  rcases Int.lt_trichotomy a b with less | rfl | more
  · simp [Int.compare_eq_lt.mpr less]
    omega
  · simp [Nat.isGE_compare]
  · simp [Int.compare_eq_gt.mpr more, more]

/-- What is compared are the ranks. -/
theorem unpacked_le_iff (x y : UnpackedFloat) :
    x.le y = true ↔ ∃ a b, rank? x = some a ∧ rank? y = some b ∧ a.AtMost b := by
  rcases x with (_ | _) | _ | _ | ⟨_ | _, m, e, _⟩ <;>
    rcases y with (_ | _) | _ | _ | ⟨_ | _, m', e', _⟩ <;>
    dsimp only [UnpackedFloat.le, UnpackedFloat.compare, rank?, Rank.AtMost] <;>
    simp [isLE_then_compare, isGE_then_compare] <;>
    rfl

/-! ## Doubles -/

/-- A double that is a number, infinite ones among them. -/
def IsNumber (x : Float) : Prop :=
  (rank? x.toModel.unpack).isSome = true

variable {x y z : Float}

theorem double_le_iff : x ≤ y ↔
    ∃ a b, rank? x.toModel.unpack = some a ∧ rank? y.toModel.unpack = some b ∧ a.AtMost b := by
  rw [← unpacked_le_iff]
  exact ⟨fun h => of_decide_eq_true h, fun h => decide_eq_true h⟩

theorem isNumber_of_double_le (h : x ≤ y) : IsNumber x ∧ IsNumber y := by
  obtain ⟨a, b, left, right, -⟩ := double_le_iff.mp h
  exact ⟨Option.isSome_of_eq_some left, Option.isSome_of_eq_some right⟩

theorem double_le_trans (h : x ≤ y) (h' : y ≤ z) : x ≤ z := by
  obtain ⟨a, b, left, middle, below⟩ := double_le_iff.mp h
  obtain ⟨b', c, middle', right, above⟩ := double_le_iff.mp h'
  obtain rfl := Option.some.inj (middle.symm.trans middle')
  exact double_le_iff.mpr ⟨a, c, left, right, below.trans above⟩

theorem double_le_total (h : IsNumber x) (h' : IsNumber y) : x ≤ y ∨ y ≤ x := by
  obtain ⟨a, left⟩ := Option.isSome_iff_exists.mp h
  obtain ⟨b, right⟩ := Option.isSome_iff_exists.mp h'
  rcases a.atMost_total b with below | above
  · exact .inl (double_le_iff.mpr ⟨a, b, left, right, below⟩)
  · exact .inr (double_le_iff.mpr ⟨b, a, right, left, above⟩)

end FilterQuery.Number
