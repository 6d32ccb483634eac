import Daybook.Proofs.Number.Arithmetic

/-!
Arithmetic that does not look at the sign of a zero. Numerically equal doubles are the same double
unless both are zeros, so their sums and quotients are numerically equal again, or no numbers on
both sides.
-/

namespace Daybook.Number

open Float.Model (UnpackedFloat)

variable {x y z w : Float} {u v u' v' : UnpackedFloat}

/-- Numerically equal, or both are no numbers. -/
def Alike (x y : Float) : Prop := (x == y) = true ∨ x.isNaN = true ∧ y.isNaN = true

lemma alike_refl (x : Float) : Alike x x := by
  rcases hx : x.isNaN with _ | _
  · exact .inl (beq_self hx)
  · exact .inr ⟨hx, hx⟩

/-- The same, or two zeros. -/
def Twins (u v : UnpackedFloat) : Prop := u = v ∨ ∃ s t, u = .zero s ∧ v = .zero t

lemma twins_of_place_eq (hu : u.isNaN = false) (hv : v.isNaN = false) (h : place u = place v) :
    Twins u v := by
  rcases u with (_ | _) | _ | s | ⟨(_ | _), m, d, _⟩ <;>
    rcases v with (_ | _) | _ | t | ⟨(_ | _), n, e, _⟩ <;>
    first
      | exact .inl rfl
      | exact .inr ⟨s, t, rfl, rfl⟩
      | (cases hu; done)
      | (cases hv; done)
      | (simp only [place, Prod.mk.injEq] at h; omega)
      | (refine .inl ?_
         simp only [place, Prod.mk.injEq, neg_inj, Nat.cast_inj, true_and] at h
         obtain ⟨rfl, rfl⟩ := h
         rfl)

lemma eq_of_order_eq {a b : ℤ × ℤ × ℤ} (h : order a b = .eq) : a = b := by
  simp only [order, Ordering.then_eq_eq, Int.compare_eq_eq] at h
  exact Prod.ext h.1 (Prod.ext h.2.1 h.2.2)

lemma Alike.twins (h : Alike x y) : Twins x.toModel.unpack y.toModel.unpack := by
  rcases h with h | ⟨hx, hy⟩
  · obtain ⟨hx, hy⟩ := numbers_of_beq h
    rw [beq_iff_compare, compare_eq_order hx hy, Option.some_inj] at h
    exact twins_of_place_eq hx hy (eq_of_order_eq h)
  · rw [isNaN_eq] at hx hy
    left
    revert hx hy
    cases x.toModel.unpack <;> cases y.toModel.unpack <;> simp [UnpackedFloat.isNaN]

lemma Twins.alike (h : Twins u v) :
    Alike (Float.ofModel (Float.Model.pack u)) (Float.ofModel (Float.Model.pack v)) := by
  rcases h with rfl | ⟨s, t, rfl, rfl⟩
  · exact alike_refl _
  · cases s <;> cases t <;> exact .inl (by decide +kernel)

lemma exists_add_zero_zero (s t : UnpackedFloat.Sign) :
    ∃ r, UnpackedFloat.add .binary64 (.zero s) (.zero t) = .zero r := by
  cases s <;> cases t <;> exact ⟨_, rfl⟩

lemma Twins.add (h : Twins u u') (h' : Twins v v') :
    Twins (UnpackedFloat.add .binary64 u v) (UnpackedFloat.add .binary64 u' v') := by
  have hzeros : ∀ s t p q, Twins (UnpackedFloat.add .binary64 (.zero s) (.zero p))
      (UnpackedFloat.add .binary64 (.zero t) (.zero q)) := by
    intro s t p q
    obtain ⟨r, hr⟩ := exists_add_zero_zero s p
    obtain ⟨r', hr'⟩ := exists_add_zero_zero t q
    exact .inr ⟨r, r', hr, hr'⟩
  -- a zero adds nothing to what is not zero
  rcases h with rfl | ⟨s, t, rfl, rfl⟩ <;> rcases h' with rfl | ⟨p, q, rfl, rfl⟩
  · exact .inl rfl
  · cases u with
    | zero s => exact hzeros s s p q
    | infinity | notANumber | finite => exact .inl rfl
  · cases v with
    | zero p => exact hzeros s t p p
    | infinity | notANumber | finite => exact .inl rfl
  · exact hzeros s t p q

lemma Twins.div (h : Twins u u') (v : UnpackedFloat) :
    Twins (UnpackedFloat.div .binary64 u v) (UnpackedFloat.div .binary64 u' v) := by
  rcases h with rfl | ⟨s, t, rfl, rfl⟩
  · exact .inl rfl
  · cases v with
    | infinity | finite => exact .inr ⟨_, _, rfl, rfl⟩
    | zero | notANumber => exact .inl rfl

/-- **Sums of numerically equal numbers** are numerically equal, or there is none on either side. -/
lemma Alike.add (hxy : Alike x y) (hzw : Alike z w) : Alike (x + z) (y + w) :=
  (hxy.twins.add hzw.twins).alike

lemma Alike.div (h : Alike x y) (z : Float) : Alike (x / z) (y / z) :=
  (h.twins.div z.toModel.unpack).alike

end Daybook.Number
