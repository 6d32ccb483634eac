import Daybook.Proofs.Calendar.Order
import Daybook.Proofs.Number.Spread
import Daybook.Summary.Basic

/-!
The variance of a series. For finite values it is the sample variance, rounded once to the nearest
double; so it depends on no days and on no order, it is not negative, and equal values have none. It
stops where the sample variance is past the range of doubles, and fewer than two values have no
variance.
-/

namespace Daybook

namespace Summary

open Number

variable {s t : Series} {c : Context}

/-- The sample variance of the values, as an exact number. -/
def exactVariance (s : Series) : ℚ := sampleVariance (s.present.map value)

/-- What a figure is if it is the variance of finite values. -/
structure IsVariance (s : Series) (r : Outcome Value) : Prop where
  nearest : exactVariance s < rangeEnd →
    ∃ z, r = .ok (.number z) ∧ IsNearestDouble (exactVariance s) z
  tooLarge : rangeEnd ≤ exactVariance s → r = .abort .quotientTooLarge
  notNegative : ∀ z, r = .ok (.number z) → 0.0 ≤ z ∧ signBit z = false
  ofEqual : (∀ x ∈ s.present, ∀ y ∈ s.present, (x == y) = true) → r = .ok (.number 0.0)
  ofRearranged : ∀ t c, s.present.Perm t.present → variance.of c t = r

/-- An exact number that is not negative, as a double; it only has to be in range. -/
def ofExact (v : ℚ) : Outcome Value :=
  match nearestDouble? v with
  | some z => .ok (.number z)
  | none => .abort .quotientTooLarge

lemma exactVariance_nonneg (h : 2 ≤ s.present.length) : 0 ≤ exactVariance s := by
  refine sampleVariance_nonneg ?_
  rw [ne_eq, List.map_eq_nil_iff, ← List.length_eq_zero_iff]
  omega

section

variable (hlength : 2 ≤ s.present.length) (hfinite : ∀ x ∈ s.present, isFinite x = true)

include hlength hfinite

lemma variance_of (c : Context) : variance.of c s = ofExact (exactVariance s) := by
  rw [Summary.of, if_neg (Nat.not_lt.2 hlength), variance?_eq hfinite hlength]
  rfl

lemma exactVariance_eq_zero (h : ∀ x ∈ s.present, ∀ y ∈ s.present, (x == y) = true) :
    exactVariance s = 0 := by
  obtain ⟨x, hx⟩ := List.exists_mem_of_length_pos (Nat.lt_of_lt_of_le Nat.two_pos hlength)
  refine sampleVariance_of_forall_eq (w := value x) fun v hv => ?_
  obtain ⟨y, hy, rfl⟩ := List.mem_map.1 hv
  exact (beq_iff_value (hfinite y hy) (hfinite x hx)).1 (h y hy x hx)

end

lemma ofExact_of_lt {v : ℚ} (h : v < rangeEnd) :
    ofExact v = .ok (.number (ofMagnitude false (doubleBits v))) := by
  rw [ofExact, nearestDouble?, if_pos h]

lemma ofExact_of_le {v : ℚ} (h : rangeEnd ≤ v) : ofExact v = .abort .quotientTooLarge := by
  rw [ofExact, nearestDouble?, if_neg (not_lt.2 h)]

lemma zero_lt_rangeEnd : 0 < rangeEnd := by
  rw [← doubleBits_lt_iff le_rfl, doubleBits_zero]
  decide

lemma ofExact_zero : ofExact 0 = .ok (.number 0.0) := by
  rw [ofExact_of_lt zero_lt_rangeEnd, doubleBits_zero]
  rfl

/-- **The variance of a series** of at least two values, all finite, is the sample variance rounded
once, and fewer values have none. -/
theorem variance_rounded (s : Series) (c : Context) :
    (s.present.length < 2 → ∃ f, variance.of c s = .fault f ∧ f.kind = .noData) ∧
      (2 ≤ s.present.length → (∀ x ∈ s.present, isFinite x = true) →
        IsVariance s (variance.of c s)) := by
  refine ⟨fun hfew => ⟨.noData .variance, if_pos hfew, rfl⟩, fun hlength hfinite => ?_⟩
  have hnonneg := exactVariance_nonneg hlength
  rw [variance_of hlength hfinite]
  refine ⟨fun hlt => ?_, ofExact_of_le, fun z hz => ?_, fun hequal => ?_, fun t c' hperm => ?_⟩
  · exact ⟨_, ofExact_of_lt hlt, isNearestDouble_doubleBits hnonneg hlt⟩
  · rcases lt_or_ge (exactVariance s) rangeEnd with hlt | hge
    · rw [ofExact_of_lt hlt] at hz
      cases hz
      have hbits := (doubleBits_lt_iff hnonneg).2 hlt
      refine ⟨?_, signBit_ofMagnitude hbits.le⟩
      rw [zero_eq, ofMagnitude_le_iff (Nat.zero_le _) hbits.le]
      exact Nat.zero_le _
    · rw [ofExact_of_le hge] at hz
      cases hz
  · rw [exactVariance_eq_zero hlength hfinite hequal, ofExact_zero]
  · -- the exact variance does not see the order of the values
    have hlength' : 2 ≤ t.present.length := hperm.length_eq ▸ hlength
    have hfinite' : ∀ x ∈ t.present, isFinite x = true := fun x hx => hfinite x (hperm.mem_iff.2 hx)
    rw [variance_of hlength' hfinite', exactVariance, exactVariance,
      sampleVariance_perm (hperm.map value)]

/-- Values far from zero that lie close together. -/
def closeTogether : Series where
  entries := [⟨(Date.of? 2024 2 28).get Date.isSome_february28, some 100000001.0⟩,
    ⟨(Date.of? 2024 2 29).get Date.isSome_february29, some 100000002.0⟩,
    ⟨(Date.of? 2024 3 1).get Date.isSome_march1, some 100000004.0⟩]

theorem variance_rounded_closeTogether :
    2 ≤ closeTogether.present.length ∧ (∀ x ∈ closeTogether.present, isFinite x = true) ∧
      IsVariance closeTogether (variance.of {} closeTogether) ∧
      variance.of {} closeTogether = .ok (.number (7.0 / 3.0)) := by
  have hlength : 2 ≤ closeTogether.present.length := by decide
  have hfinite : ∀ x ∈ closeTogether.present, isFinite x = true := by decide +kernel
  have hthird : variance? closeTogether.present = some (7.0 / 3.0) := by decide +kernel
  refine ⟨hlength, hfinite, (variance_rounded closeTogether {}).2 hlength hfinite, ?_⟩
  rw [Summary.of, if_neg (Nat.not_lt.2 hlength), hthird]

end Summary

end Daybook
