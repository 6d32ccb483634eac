import Daybook.Proofs.Number.Rounding

/-!
Counts as doubles. Rounding keeps the order of natural numbers, so a count is at most another one
as a double if it is so as a number. Up to the first power of two that needs more than the `53`
places of a fraction, doubles tell all counts apart; beyond it they do not. As long as doubles
reach, a whole number is the same double if it is read as a decimal.
-/

namespace Daybook.Number

variable {m n : ℕ}

/-! ### The fraction of a natural number -/

/-- The fraction of a number whose first bit is bit `k`, together with that bit. -/
def fraction (n k : ℕ) : ℕ :=
  if k ≤ 52 then n * pow2 (52 - k) else roundHalfEven n (pow2 (k - 52))

lemma lastBit_natCast (hn : 0 < n) : lastBit n = n.log2 - 52 := by
  rw [lastBit, log_of_floor hn le_rfl (lt_add_one _)]
  omega

lemma fraction_eq (hn : 0 < n) : fraction n n.log2 = nearestWhole (n / 2 ^ lastBit n) := by
  rw [fraction, lastBit_natCast hn]
  split_ifs with hk
  · have hexp : (n.log2 : ℤ) - 52 = -((52 - n.log2 : ℕ) : ℤ) := by omega
    rw [hexp, zpow_neg, div_inv_eq_mul, zpow_natCast, pow2_eq]
    exact_mod_cast (nearestWhole_natCast (n * 2 ^ (52 - n.log2))).symm
  · have hexp : (n.log2 : ℤ) - 52 = ((n.log2 - 52 : ℕ) : ℤ) := by omega
    rw [hexp, zpow_natCast, pow2_eq, roundHalfEven_eq (Nat.two_pow_pos _), Nat.cast_pow,
      Nat.cast_ofNat]

lemma fraction_bounds (hn : 0 < n) :
    pow2 52 ≤ fraction n n.log2 ∧ fraction n n.log2 ≤ 2 * pow2 52 := by
  have hpos : (0 : ℚ) < n := Nat.cast_pos.2 hn
  have hlast := lastBit_natCast hn
  rw [fraction_eq hn]
  exact ⟨le_fraction hpos (by omega), fraction_le hpos⟩

/-! ### The bits of the nearest double -/

lemma nearestBits_one (n : ℕ) : nearestBits n 1 = doubleBits n := by
  rw [nearestBits_eq one_pos, Nat.cast_one, div_one]

lemma nearestBits_nat (hn : 0 < n) :
    nearestBits n 1 = (n.log2 + 1022) * pow2 52 + fraction n n.log2 := by
  have hexp : ((n.log2 : ℤ) - 52 + 1074).toNat = n.log2 + 1022 := by omega
  rw [nearestBits_one, doubleBits_of_pos (Nat.cast_pos.2 hn), ← fraction_eq hn,
    lastBit_natCast hn, hexp]

lemma nearestBits_mono (h : m ≤ n) : nearestBits m 1 ≤ nearestBits n 1 := by
  rw [nearestBits_one, nearestBits_one]
  exact doubleBits_mono (Nat.cast_nonneg m) (Nat.cast_le.2 h)

lemma magnitude_nearestBits (hn : n ≤ pow2 53) : magnitude (nearestBits n 1) = n := by
  rcases Nat.eq_zero_or_pos n with rfl | hpos
  · exact magnitude_zero
  rcases hn.eq_or_lt with rfl | hlt
  · have hbits : nearestBits (pow2 53) 1 = 1075 * pow2 52 + 2 ^ 52 := by decide +kernel
    rw [hbits, magnitude_add (by decide) (.inr le_rfl), pow2_eq]
    norm_num
  · have hk : n.log2 ≤ 52 := Nat.le_of_lt_succ ((Nat.log2_lt (Nat.ne_of_gt hpos)).2 hlt)
    have hexp : (n.log2 : ℤ) - 52 = -((52 - n.log2 : ℕ) : ℤ) := by omega
    rw [nearestBits_one, magnitude_doubleBits (Nat.cast_pos.2 hpos), ← fraction_eq hpos,
      lastBit_natCast hpos, hexp, fraction, if_pos hk, pow2_eq, zpow_neg, zpow_natCast,
      Nat.cast_mul, Nat.cast_pow, Nat.cast_ofNat, mul_inv_cancel_right₀ (by positivity)]

lemma nearestBits_lt (h : m < n) (hn : n ≤ pow2 53) : nearestBits m 1 < nearestBits n 1 := by
  rw [← magnitude_lt_iff, magnitude_nearestBits (h.le.trans hn), magnitude_nearestBits hn]
  exact Nat.cast_lt.2 h

/-! ### Counts -/

lemma ofNat_eq (n : ℕ) :
    ofNat n = ofMagnitude false (min (nearestBits n 1) (2047 * pow2 52)) :=
  getD_nearest? false n 1

/-- **Counts keep their order as doubles.** -/
lemma ofNat_le (h : m ≤ n) : ofNat m ≤ ofNat n := by
  have hbits := nearestBits_mono h
  rw [ofNat_eq, ofNat_eq, ofMagnitude_le_iff (Nat.min_le_right _ _) (Nat.min_le_right _ _)]
  omega

lemma zero_lt_ofNat : 0.0 < ofNat n ↔ 0 < n := by
  have hzero : (0.0 : Float) = ofMagnitude false 0 := by rfl
  rw [hzero, ofNat_eq, ofMagnitude_lt_iff (Nat.zero_le _) (Nat.min_le_right _ _)]
  rcases Nat.eq_zero_or_pos n with rfl | hn
  · exact Iff.rfl
  · have hlow := (fraction_bounds hn).1
    have hpos : 0 < pow2 52 := by decide
    rw [nearestBits_nat hn]
    omega

lemma ofNat_lt (h : m < n) (hn : n ≤ pow2 53) : ofNat m < ofNat n := by
  have hbits := nearestBits_lt h hn
  have hmax : nearestBits n 1 ≤ nearestBits (pow2 53) 1 := nearestBits_mono hn
  have htop : nearestBits (pow2 53) 1 ≤ 2047 * pow2 52 := by decide +kernel
  rw [ofNat_eq, ofNat_eq, ofMagnitude_lt_iff (Nat.min_le_right _ _) (Nat.min_le_right _ _)]
  omega

/-- **Up to `2 ^ 53` a count can be told from its double.** -/
lemma ofNat_beq_iff (hm : m ≤ pow2 53) (hn : n ≤ pow2 53) :
    (ofNat m == ofNat n) = true ↔ m = n := by
  have hnan : ∀ k, (ofNat k).isNaN = false := fun k => by
    rw [ofNat_eq]
    exact isNaN_ofMagnitude (Nat.min_le_right _ _)
  refine ⟨fun h => ?_, fun h => h ▸ beq_self (hnan m)⟩
  obtain ⟨hnot, hnot'⟩ := not_lt_of_beq h
  rcases Nat.lt_trichotomy m n with hlt | heq | hgt
  · exact absurd (ofNat_lt hlt hn) hnot
  · exact heq
  · exact absurd (ofNat_lt hgt hm) hnot'

/-! ### Whole numbers and decimals -/

lemma log2_lt_of_nearestBits (hn : 0 < n) (h : nearestBits n 1 < 2047 * pow2 52) :
    n.log2 < 1024 := by
  have hlow := (fraction_bounds hn).1
  rw [nearestBits_nat hn] at h
  have hexp : n.log2 + 1023 < 2047 := by
    refine Nat.lt_of_mul_lt_mul_right (a := pow2 52) ?_
    calc (n.log2 + 1023) * pow2 52 = (n.log2 + 1022) * pow2 52 + pow2 52 := by ring
      _ ≤ (n.log2 + 1022) * pow2 52 + fraction n n.log2 := Nat.add_le_add_left hlow _
      _ < 2047 * pow2 52 := h
  omega

/-- **A whole number in the range of doubles has one double**, whether it is rounded as a number
or read as a decimal. -/
lemma ofDecimal_of_ofInt? {x : Float} (h : ofInt? (n : Int) = some x) :
    ofDecimal false n 0 = x := by
  have hsign : decide ((n : Int) < 0) = false := decide_eq_false (by omega)
  rw [ofInt?, hsign, Int.natAbs_natCast] at h
  rcases Nat.eq_zero_or_pos n with rfl | hn
  · exact Option.some.inj h
  have hbits : nearestBits n 1 < 2047 * pow2 52 := by
    by_contra hge
    rw [nearest?, if_neg hge] at h
    cases h
  have hlog := log2_lt_of_nearestBits hn hbits
  have hone : pow10 (0 : Int).toNat = 1 := rfl
  have hlarge : ¬ 400 < (n.log2 : Int) * 3 / 10 + 0 := by omega
  have hsmall : ¬ (n.log2 : Int) / 2 + 1 + 0 < -400 := by omega
  rw [ofDecimal, if_neg (Nat.ne_of_gt hn), if_neg hlarge, if_neg hsmall, if_pos (Int.le_refl 0),
    hone, Nat.mul_one, h]
  rfl

end Daybook.Number
