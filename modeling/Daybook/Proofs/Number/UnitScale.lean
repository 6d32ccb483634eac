import Daybook.Proofs.Number.Arithmetic

/-!
Moving numbers onto the unit range: the distance from the lower end is divided by the span. Both
are rounded, and the quotient once more, but each rounding keeps the order and hits the ends. So
nothing is lost as long as the span itself is finite. A span out of range is infinity, and the
upper end is at infinity over infinity then.
-/

namespace Daybook.Number

/-- How far a number lies from the one end of a range to the other. -/
def toUnit (lo hi x : Float) : Float := (x - lo) / (hi - lo)

/-- Two finite numbers, one below the other. -/
structure Range (lo hi : Float) : Prop where
  finite_lo : isFinite lo = true
  finite_hi : isFinite hi = true
  lt : value lo < value hi

/-- The number lies in the range. -/
structure Range.Holds (lo hi x : Float) : Prop where
  finite : isFinite x = true
  lo_le : value lo ≤ value x
  le_hi : value x ≤ value hi

namespace Range

variable {lo hi x y : Float} (h : Range lo hi)

include h

lemma holds_lo : Holds lo hi lo := ⟨h.finite_lo, le_rfl, h.lt.le⟩

lemma holds_hi : Holds lo hi hi := ⟨h.finite_hi, h.lt.le, le_rfl⟩

lemma rounds_shift (hx : Holds lo hi x) : Rounds (x - lo) (value x - value lo) :=
  rounds_sub hx.finite h.finite_lo

section

variable (hspan : isFinite (hi - lo) = true)

include hspan

lemma isFinite_shift (hx : Holds lo hi x) : isFinite (x - lo) = true :=
  (h.rounds_shift hx).isFinite_of_le (h.rounds_shift h.holds_hi) (sub_nonneg.2 hx.lo_le)
    (sub_le_sub_right hx.le_hi _) hspan

lemma value_shift (hx : Holds lo hi x) : value (x - lo) = rounded (value x - value lo) :=
  (h.rounds_shift hx).value_eq (sub_nonneg.2 hx.lo_le) (h.isFinite_shift hspan hx)

lemma value_span_pos : 0 < value (hi - lo) := by
  rw [h.value_shift hspan h.holds_hi]
  exact rounded_sub_pos h.lt

lemma quotient_mem (hx : Holds lo hi x) :
    0 ≤ value (x - lo) / value (hi - lo) ∧ value (x - lo) / value (hi - lo) ≤ 1 := by
  have hpos := h.value_span_pos hspan
  refine ⟨div_nonneg ?_ hpos.le, (div_le_one hpos).2 ?_⟩
  · rw [h.value_shift hspan hx]
    exact rounded_nonneg _
  · rw [h.value_shift hspan hx, h.value_shift hspan h.holds_hi]
    exact rounded_mono (sub_nonneg.2 hx.lo_le) (sub_le_sub_right hx.le_hi _)

lemma rounds_toUnit (hx : Holds lo hi x) :
    Rounds (toUnit lo hi x) (value (x - lo) / value (hi - lo)) :=
  rounds_div (h.isFinite_shift hspan hx) hspan (h.value_span_pos hspan).ne'

lemma isFinite_toUnit (hx : Holds lo hi x) : isFinite (toUnit lo hi x) = true := by
  obtain ⟨hnonneg, hle⟩ := h.quotient_mem hspan hx
  have hone : Rounds 1.0 1 := value_one ▸ rounds_self isFinite_one
  exact (h.rounds_toUnit hspan hx).isFinite_of_le hone hnonneg hle isFinite_one

lemma value_toUnit (hx : Holds lo hi x) :
    value (toUnit lo hi x) = rounded (value (x - lo) / value (hi - lo)) :=
  (h.rounds_toUnit hspan hx).value_eq (h.quotient_mem hspan hx).1 (h.isFinite_toUnit hspan hx)

lemma value_toUnit_lo (hx : Holds lo hi x) (hlo : value x = value lo) :
    value (toUnit lo hi x) = 0 := by
  rw [h.value_toUnit hspan hx, h.value_shift hspan hx, hlo, sub_self, rounded_zero, zero_div,
    rounded_zero]

lemma value_toUnit_hi (hx : Holds lo hi x) (hhi : value x = value hi) :
    value (toUnit lo hi x) = 1 := by
  have hsame : value (x - lo) = value (hi - lo) := by
    rw [h.value_shift hspan hx, h.value_shift hspan h.holds_hi, hhi]
  rw [h.value_toUnit hspan hx, hsame, div_self (h.value_span_pos hspan).ne', rounded_one]

lemma toUnit_mono (hx : Holds lo hi x) (hy : Holds lo hi y) (hxy : value x ≤ value y) :
    value (toUnit lo hi x) ≤ value (toUnit lo hi y) := by
  have hpos := h.value_span_pos hspan
  rw [h.value_toUnit hspan hx, h.value_toUnit hspan hy]
  refine rounded_mono (h.quotient_mem hspan hx).1 (div_le_div_of_nonneg_right ?_ hpos.le)
  rw [h.value_shift hspan hx, h.value_shift hspan hy]
  exact rounded_mono (sub_nonneg.2 hx.lo_le) (sub_le_sub_right hxy _)

lemma toUnit_mem (hx : Holds lo hi x) :
    0 ≤ value (toUnit lo hi x) ∧ value (toUnit lo hi x) ≤ 1 := by
  rw [← h.value_toUnit_lo hspan h.holds_lo rfl, ← h.value_toUnit_hi hspan h.holds_hi rfl]
  exact ⟨h.toUnit_mono hspan h.holds_lo hx hx.lo_le, h.toUnit_mono hspan hx h.holds_hi hx.le_hi⟩

end

lemma isNaN_toUnit_hi (hspan : isFinite (hi - lo) = false) (hx : Holds lo hi x)
    (hhi : value x = value hi) : (toUnit lo hi x).isNaN = true := by
  have hround := h.rounds_shift h.holds_hi
  have hpos := sub_pos.2 h.lt
  have hsame : x - lo = infinity false := by
    refine (h.rounds_shift hx).eq_infinity (hhi ▸ hpos) ?_
    rw [Bool.eq_false_iff, ne_eq, (h.rounds_shift hx).isFinite_iff, hhi, ← hround.isFinite_iff,
      hspan]
    decide
  rw [toUnit, hsame, hround.eq_infinity hpos hspan]
  decide +kernel

/-! ### The unit range itself -/

section

variable (hlo : value lo = 0) (hhi : value hi = 1)

include hlo hhi

lemma isFinite_span_of_unit : isFinite (hi - lo) = true := by
  have hle : value hi - value lo ≤ value 1.0 := by rw [hlo, hhi, sub_zero, value_one]
  exact (h.rounds_shift h.holds_hi).isFinite_of_le (rounds_self isFinite_one)
    (sub_nonneg.2 h.lt.le) hle isFinite_one

lemma value_toUnit_of_unit (hx : Holds lo hi x) : value (toUnit lo hi x) = value x := by
  have hspan := h.isFinite_span_of_unit hlo hhi
  have hpos : 0 ≤ value x := hlo ▸ hx.lo_le
  rw [h.value_toUnit hspan hx, h.value_shift hspan hx, h.value_shift hspan h.holds_hi, hlo, hhi,
    sub_zero, sub_zero, rounded_one, div_one, rounded_value hx.finite hpos,
    rounded_value hx.finite hpos]

end

end Range

end Daybook.Number
