import Mathlib.Algebra.BigOperators.Group.List.Lemmas
import Mathlib.Algebra.Order.BigOperators.Group.List
import Daybook.Number.Variance
import Daybook.Proofs.Number.Nearest

/-!
The sample variance. It is computed in one pass, from a sum and a sum of squares of whole numbers,
and this comes to the sum of the squared distances from the mean. Nothing is rounded on the way, so
that the order of the numbers does not matter and equal numbers have none.
-/

namespace Daybook.Number

variable {vs ws : List ℚ} {xs ys : List Float} {ns : List ℤ} {x : Float} {k : ℤ}

/-! ### On exact numbers -/

def mean (vs : List ℚ) : ℚ := vs.sum / vs.length

def squaredDistances (vs : List ℚ) : ℚ := (vs.map fun v => (v - mean vs) ^ 2).sum

/-- The squared distances from the mean over the count less one. -/
def sampleVariance (vs : List ℚ) : ℚ := squaredDistances vs / (vs.length - 1)

/-- **One pass instead of two**: the squares of the numbers and that of their sum are enough. -/
lemma length_mul_squaredDistances (vs : List ℚ) :
    vs.length * squaredDistances vs =
      vs.length * (vs.map fun v => v * v).sum - vs.sum * vs.sum := by
  rcases eq_or_ne vs [] with rfl | hvs
  · simp
  have hlength : (vs.length : ℚ) ≠ 0 := Nat.cast_ne_zero.2 (List.length_pos_iff.2 hvs).ne'
  have hsum : vs.length * mean vs = vs.sum := mul_div_cancel₀ _ hlength
  have hexpand : ∀ v, (v - mean vs) ^ 2 = v * v + (-(2 * mean vs) * v + mean vs ^ 2) := fun v => by
    ring
  have hlinear : (vs.map fun v => -(2 * mean vs) * v).sum = -(2 * mean vs) * vs.sum := by
    rw [List.sum_map_mul_left, List.map_id']
  have hdistances : squaredDistances vs =
      (vs.map fun v => v * v).sum + (-(2 * mean vs) * vs.sum + vs.length * mean vs ^ 2) := by
    simp only [squaredDistances, hexpand, List.sum_map_add, hlinear, List.map_const',
      List.sum_replicate, nsmul_eq_mul]
  rw [hdistances, ← hsum]
  ring

lemma squaredDistances_nonneg (vs : List ℚ) : 0 ≤ squaredDistances vs := by
  refine List.sum_nonneg fun d hd => ?_
  obtain ⟨v, -, rfl⟩ := List.mem_map.1 hd
  exact sq_nonneg _

lemma sampleVariance_nonneg (h : vs ≠ []) : 0 ≤ sampleVariance vs := by
  have hlength : (1 : ℚ) ≤ vs.length := by exact_mod_cast List.length_pos_iff.2 h
  exact div_nonneg (squaredDistances_nonneg vs) (sub_nonneg.2 hlength)

lemma sampleVariance_perm (h : vs.Perm ws) : sampleVariance vs = sampleVariance ws := by
  have hmean : mean vs = mean ws := by rw [mean, mean, h.sum_eq, h.length_eq]
  have hdistances : squaredDistances vs = squaredDistances ws := by
    rw [squaredDistances, squaredDistances, hmean]
    exact (h.map _).sum_eq
  rw [sampleVariance, sampleVariance, hdistances, h.length_eq]

lemma sampleVariance_of_forall_eq {w : ℚ} (h : ∀ v ∈ vs, v = w) : sampleVariance vs = 0 := by
  obtain ⟨n, rfl⟩ : ∃ n, vs = List.replicate n w := ⟨vs.length, List.eq_replicate_of_mem h⟩
  rcases Nat.eq_zero_or_pos n with rfl | hn
  · simp [sampleVariance, squaredDistances]
  have hmean : mean (List.replicate n w) = w := by
    have hpos : (n : ℚ) ≠ 0 := by exact_mod_cast hn.ne'
    rw [mean, List.sum_replicate, List.length_replicate, nsmul_eq_mul, mul_div_cancel_left₀ _ hpos]
  simp [sampleVariance, squaredDistances, hmean]

/-! ### On doubles -/

/-- The lower one of a known exponent and that of a finite double. -/
def lowerExponent (k : ℤ) (x : Float) : ℤ :=
  match parts x with
  | .finite _ _ e => min k e
  | _ => k

lemma lowerExponent_le (k : ℤ) (x : Float) : lowerExponent k x ≤ k := by
  rw [lowerExponent]
  split
  · exact min_le_left _ _
  · exact le_rfl

lemma foldl_lowerExponent_le (xs : List Float) (k : ℤ) : xs.foldl lowerExponent k ≤ k := by
  induction xs generalizing k with
  | nil => exact le_rfl
  | cons x xs ih => exact (ih _).trans (lowerExponent_le k x)

lemma foldl_lowerExponent_le_of_mem (hx : x ∈ xs) {s : Bool} {m : ℕ} {e : ℤ}
    (hparts : parts x = .finite s m e) (k : ℤ) : xs.foldl lowerExponent k ≤ e := by
  induction xs generalizing k with
  | nil => cases hx
  | cons y xs ih =>
    rw [List.foldl_cons]
    rcases List.mem_cons.1 hx with rfl | hx
    · refine (foldl_lowerExponent_le xs _).trans ?_
      rw [lowerExponent, hparts]
      exact min_le_right _ _
    · exact ih hx _

def onScale (k n : ℤ) : ℚ := n * 2 ^ k

lemma onScale_multipleOf (hx : isFinite x = true)
    (hk : ∀ s m e, parts x = .finite s m e → k ≤ e) : onScale k (multipleOf k x) = value x := by
  obtain ⟨s, m, e, hparts⟩ := exists_parts_of_isFinite hx
  rw [value_of_parts hparts, mul_zpow_eq (hk s m e hparts)]
  simp only [onScale, multipleOf, hparts]
  cases s <;> simp [withSign]

lemma sum_eq (ns : List ℤ) : sum ns = ns.sum := List.sum_eq_foldl.symm

lemma spread_mul (ns : List ℤ) (k : ℤ) :
    onScale (2 * k) (spread ns) = ns.length * squaredDistances (ns.map (onScale k)) := by
  have hpow : (2 : ℚ) ^ (2 * k) = 2 ^ k * 2 ^ k := by rw [two_mul, zpow_add₀ two_ne_zero]
  have hsum : (ns.map (onScale k)).sum = onScale k ns.sum := by
    rw [onScale, Int.cast_list_sum, ← List.sum_map_mul_right]
    rfl
  have hsquares : ((ns.map (onScale k)).map fun v => v * v).sum =
      onScale (2 * k) (ns.map fun n => n * n).sum := by
    rw [onScale, Int.cast_list_sum, ← List.sum_map_mul_right, List.map_map, List.map_map]
    refine congrArg List.sum (List.map_congr_left fun n _ => ?_)
    simp only [Function.comp_apply, onScale, Int.cast_mul, hpow]
    ring
  have hlength := length_mul_squaredDistances (ns.map (onScale k))
  rw [List.length_map, hsum, hsquares] at hlength
  rw [hlength, spread, sum_eq, sum_eq]
  simp only [onScale, hpow]
  push_cast
  ring

lemma spread_nonneg (ns : List ℤ) : 0 ≤ spread ns := by
  have hle : 0 ≤ onScale (2 * 0) (spread ns) := by
    rw [spread_mul]
    exact mul_nonneg (Nat.cast_nonneg _) (squaredDistances_nonneg _)
  simpa [onScale] using hle

lemma onScale_spread_div (ns : List ℤ) (k : ℤ) (hlength : 2 ≤ ns.length) :
    onScale (2 * k) (spread ns) / (ns.length * (ns.length - 1) : ℕ) =
      sampleVariance (ns.map (onScale k)) := by
  have hcount : (ns.length : ℚ) ≠ 0 := Nat.cast_ne_zero.2 (by omega)
  rw [spread_mul, sampleVariance, List.length_map, Nat.cast_mul, Nat.cast_sub (by omega),
    Nat.cast_one, mul_div_mul_left _ _ hcount]

/-- **The sample variance is rounded once.** -/
lemma exactVariance?_eq (hxs : ∀ x ∈ xs, isFinite x = true) (hlength : 2 ≤ xs.length) :
    exactVariance? xs = nearestDouble? (sampleVariance (xs.map value)) := by
  have hvalues : (xs.map (multipleOf (leastExponent xs))).map (onScale (leastExponent xs)) =
      xs.map value := by
    rw [List.map_map]
    refine List.map_congr_left fun x hx => onScale_multipleOf (hxs x hx) fun s m e hparts => ?_
    exact foldl_lowerExponent_le_of_mem hx hparts 0
  have hquotient := onScale_spread_div (xs.map (multipleOf (leastExponent xs))) (leastExponent xs)
  rw [List.length_map, hvalues] at hquotient
  obtain ⟨n, hn⟩ := Int.eq_ofNat_of_zero_le (spread_nonneg (xs.map (multipleOf (leastExponent xs))))
  have hpos : 0 < xs.length * (xs.length - 1) := Nat.mul_pos (by omega) (by omega)
  obtain ⟨hden, hscale⟩ := scale2_eq n hpos (2 * leastExponent xs)
  rw [div_mul_eq_mul_div, ← Int.cast_natCast n, ← hn, ← onScale, hquotient hlength] at hscale
  simp only [exactVariance?, hn, Int.toNat_natCast]
  rw [nearest?_eq hden, hscale]

lemma variance?_eq (hxs : ∀ x ∈ xs, isFinite x = true) (hlength : 2 ≤ xs.length) :
    variance? xs = nearestDouble? (sampleVariance (xs.map value)) := by
  have hspecial : (xs.filter fun x => !isFinite x) = [] :=
    List.filter_eq_nil_iff.2 fun x hx => by simp [hxs x hx]
  rw [variance?, if_pos hspecial, exactVariance?_eq hxs hlength]

end Daybook.Number
