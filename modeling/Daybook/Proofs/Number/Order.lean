import Mathlib.Tactic.Common

/-!
The order of floating point numbers. What is not a number compares with nothing; all other
numbers stand in a row, in which the two zeros share a place.
-/

namespace Daybook.Number

open Float.Model (UnpackedFloat)

/-- The place of a number in the row: the class, then the exponent, then the mantissa, the last
two turned round below zero. -/
def place : UnpackedFloat → Int × Int × Int
  | .infinity .negative => (-2, 0, 0)
  | .finite .negative m e _ => (-1, -e, -m)
  | .zero _ => (0, 0, 0)
  | .finite .positive m e _ => (1, e, m)
  | .infinity .positive => (2, 0, 0)
  | .notANumber => (3, 0, 0)

def order (a b : Int × Int × Int) : Ordering :=
  (compare a.1 b.1).then ((compare a.2.1 b.2.1).then (compare a.2.2 b.2.2))

def Before (a b : Int × Int × Int) : Prop :=
  a.1 < b.1 ∨ a.1 = b.1 ∧ (a.2.1 < b.2.1 ∨ a.2.1 = b.2.1 ∧ a.2.2 < b.2.2)

lemma order_eq_lt {a b : Int × Int × Int} : order a b = .lt ↔ Before a b := by
  simp only [order, Ordering.then_eq_lt, Int.compare_eq_lt, Int.compare_eq_eq, Before]

lemma order_eq_gt {a b : Int × Int × Int} : order a b = .gt ↔ Before b a := by
  simp only [order, Ordering.then_eq_gt, Int.compare_eq_gt, Int.compare_eq_eq, Before]
  omega

lemma compare_neg (d e : Int) : compare (-d) (-e) = (compare d e).swap := by
  rcases h : compare d e with _ | _ | _
  · rw [Int.compare_eq_lt] at h
    exact Int.compare_eq_gt.2 (by omega)
  · rw [Int.compare_eq_eq] at h
    exact Int.compare_eq_eq.2 (by omega)
  · rw [Int.compare_eq_gt] at h
    exact Int.compare_eq_lt.2 (by omega)

lemma compare_cast (m n : ℕ) : compare (m : Int) (n : Int) = compare m n := by
  rcases h : compare m n with _ | _ | _
  · rw [Nat.compare_eq_lt] at h
    exact Int.compare_eq_lt.2 (by omega)
  · rw [Nat.compare_eq_eq] at h
    exact Int.compare_eq_eq.2 (by omega)
  · rw [Nat.compare_eq_gt] at h
    exact Int.compare_eq_gt.2 (by omega)

lemma compare_eq_order {x y : UnpackedFloat} (hx : x.isNaN = false) (hy : y.isNaN = false) :
    x.compare y = some (order (place x) (place y)) := by
  rcases x with (_ | _) | _ | (_ | _) | ⟨(_ | _), m, d, _⟩ <;>
    rcases y with (_ | _) | _ | (_ | _) | ⟨(_ | _), n, e, _⟩ <;>
    first
      | rfl
      | (cases hx; done)
      | (cases hy; done)
      | (dsimp only [UnpackedFloat.compare, place]
         simp [order, compare_neg, compare_cast, Ordering.swap_then])

lemma numbers_of_compare {x y : UnpackedFloat} {o : Ordering} (h : x.compare y = some o) :
    x.isNaN = false ∧ y.isNaN = false := by
  cases x with
  | notANumber => cases h
  | infinity s | zero s | finite s =>
    cases y with
    | notANumber => cases s <;> cases h
    | infinity | zero | finite => exact ⟨rfl, rfl⟩

variable {x y z : Float}

lemma lt_iff_compare : x < y ↔ x.toModel.unpack.compare y.toModel.unpack = some .lt := by
  have h : x < y ↔ x.toModel < y.toModel := decide_eq_true_iff
  rw [h]
  exact beq_iff_eq

lemma le_iff_compare :
    x ≤ y ↔ (x.toModel.unpack.compare y.toModel.unpack).any (·.isLE) = true :=
  decide_eq_true_iff

lemma lt_iff_before (hx : x.isNaN = false) (hy : y.isNaN = false) :
    x < y ↔ Before (place x.toModel.unpack) (place y.toModel.unpack) := by
  rw [lt_iff_compare, compare_eq_order hx hy, Option.some_inj, order_eq_lt]

lemma le_iff_not_before (hx : x.isNaN = false) (hy : y.isNaN = false) :
    x ≤ y ↔ ¬ Before (place y.toModel.unpack) (place x.toModel.unpack) := by
  rw [le_iff_compare, compare_eq_order hx hy, ← order_eq_gt, Option.any_some]
  cases order (place x.toModel.unpack) (place y.toModel.unpack) <;> decide

lemma numbers_of_le (h : x ≤ y) : x.isNaN = false ∧ y.isNaN = false := by
  rw [le_iff_compare, Option.any_eq_true] at h
  obtain ⟨o, ho, -⟩ := h
  exact numbers_of_compare ho

lemma le_refl (h : x.isNaN = false) : x ≤ x := by
  rw [le_iff_not_before h h]
  simp only [Before]
  omega

lemma beq_iff_compare : (x == y) = true ↔ x.toModel.unpack.compare y.toModel.unpack = some .eq := by
  have h : (x == y) = (x.toModel.unpack.compare y.toModel.unpack == some .eq) := rfl
  rw [h, beq_iff_eq]

lemma numbers_of_beq (h : (x == y) = true) : x.isNaN = false ∧ y.isNaN = false :=
  numbers_of_compare (beq_iff_compare.1 h)

lemma beq_of_le_of_le (hxy : x ≤ y) (hyx : y ≤ x) : (x == y) = true := by
  obtain ⟨hx, hy⟩ := numbers_of_le hxy
  rw [le_iff_not_before hx hy, ← order_eq_gt] at hxy
  rw [le_iff_not_before hy hx, ← order_eq_lt] at hyx
  rw [beq_iff_compare, compare_eq_order hx hy]
  rcases ho : order (place x.toModel.unpack) (place y.toModel.unpack) with _ | _ | _
  · exact absurd ho hyx
  · rfl
  · exact absurd ho hxy

lemma beq_self (h : x.isNaN = false) : (x == x) = true := beq_of_le_of_le (le_refl h) (le_refl h)

lemma not_lt_of_beq (h : (x == y) = true) : ¬ x < y ∧ ¬ y < x := by
  obtain ⟨hx, hy⟩ := numbers_of_beq h
  rw [beq_iff_compare, compare_eq_order hx hy, Option.some_inj] at h
  rw [lt_iff_before hx hy, lt_iff_before hy hx, ← order_eq_lt, ← order_eq_gt, h]
  exact ⟨nofun, nofun⟩

lemma le_of_lt (h : x < y) : x ≤ y := by
  rw [lt_iff_compare] at h
  rw [le_iff_compare, h]
  rfl

lemma numbers_of_lt (h : x < y) : x.isNaN = false ∧ y.isNaN = false := numbers_of_le (le_of_lt h)

lemma le_of_not_lt (hx : x.isNaN = false) (hy : y.isNaN = false) (h : ¬ x < y) : y ≤ x := by
  rw [lt_iff_before hx hy] at h
  exact (le_iff_not_before hy hx).2 h

lemma le_trans (hxy : x ≤ y) (hyz : y ≤ z) : x ≤ z := by
  obtain ⟨hx, hy⟩ := numbers_of_le hxy
  obtain ⟨-, hz⟩ := numbers_of_le hyz
  rw [le_iff_not_before hx hy] at hxy
  rw [le_iff_not_before hy hz] at hyz
  rw [le_iff_not_before hx hz]
  simp only [Before] at hxy hyz ⊢
  omega

end Daybook.Number
