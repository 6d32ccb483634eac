import Daybook.Proofs.Number.Whole

/-!
The remainder of two doubles is exact. Both are multiples of the finer one of their last bits. What
is left of the dividend on this grid has no more places than a double keeps, so the rounding behind
it changes nothing, however far apart the exponents are.
-/

namespace Daybook.Number

variable {a b : Float} {s t : Bool} {m n c d : ℕ} {e f k : ℤ}

/-- What a division to a whole quotient toward zero leaves: it is short of the dividend by a
multiple of the divisor, it is smaller than the divisor, and it has the sign of the dividend, also
if it is a zero. -/
structure IsRemainder (a b r : Float) : Prop where
  finite : isFinite r = true
  multiple : ∃ q : ℤ, value a - value r = q * value b
  lt : |value r| < |value b|
  sign : signBit r = signBit a

/-- What a divisor other than zero leaves of a dividend. An infinite divisor leaves all of it, and
an infinite dividend has no remainder. -/
structure Leaves (a b r : Float) : Prop where
  finite : isFinite a = true → isFinite b = true → IsRemainder a b r
  byInfinite : isFinite a = true → isInfinite b = true → r = a
  ofInfinite : isInfinite a = true → isNaN r = true

/-! ### Numbers that are doubles -/

/-- **A number with as many places as a double keeps is not changed by rounding.** -/
lemma magnitude_doubleBits_eq (hm : m < 2 ^ 53) (hk : -1074 ≤ k) :
    magnitude (doubleBits (m * 2 ^ k)) = m * 2 ^ k := by
  rcases Nat.eq_zero_or_pos m with rfl | hpos
  · simp
  have hpos' : (0 : ℚ) < m := Nat.cast_pos.2 hpos
  have hv : (0 : ℚ) < m * 2 ^ k := by positivity
  have hlog : Int.log 2 (m : ℚ) = m.log2 := log_of_floor hpos le_rfl (lt_add_one _)
  have hplaces : m.log2 < 53 := (Nat.log2_lt (Nat.ne_of_gt hpos)).2 hm
  -- the last bit that is kept is no further up than the last bit there is
  have hlast : lastBit (m * 2 ^ k) ≤ k := by
    rw [lastBit, log_mul_zpow hpos', hlog]
    omega
  obtain ⟨i, hi⟩ := Int.eq_ofNat_of_zero_le (sub_nonneg.2 hlast)
  have hwhole : (m : ℚ) * 2 ^ k = (m * 2 ^ i : ℕ) * 2 ^ lastBit (m * 2 ^ k) := by
    rw [Nat.cast_mul, Nat.cast_pow, Nat.cast_ofNat, mul_assoc, ← zpow_natCast,
      ← zpow_add₀ two_ne_zero]
    congr 2
    omega
  have hdiv : (m : ℚ) * 2 ^ k / 2 ^ lastBit (m * 2 ^ k) = (m * 2 ^ i : ℕ) :=
    (div_eq_iff (by positivity)).2 hwhole
  rw [magnitude_doubleBits hv, hdiv, nearestWhole_natCast]
  exact hwhole.symm

/-! ### Dividend and divisor on one grid -/

lemma le_exp_of_parts (h : parts a = .finite s m e) : -1074 ≤ e := by
  simp only [parts] at h
  split_ifs at h <;> cases h <;> omega

lemma doubleBits_lt_of_parts (h : parts a = .finite s m e) :
    doubleBits (m * 2 ^ e) < 2047 * pow2 52 := by
  obtain ⟨t, bits, hbits, rfl⟩ := exists_of_isFinite (isFinite_of_parts h)
  obtain ⟨n, f, hparts, hmag⟩ := parts_ofMagnitude (s := t) hbits
  obtain ⟨rfl, rfl, rfl⟩ : t = s ∧ n = m ∧ f = e := by simpa [hparts] using h
  rwa [← hmag, doubleBits_magnitude]

lemma exists_signedValue_mul (s t : Bool) (q : ℕ) (v : ℚ) :
    ∃ p : ℤ, signedValue s (q * v) = p * signedValue t v := by
  cases s <;> cases t
  · exact ⟨q, by simp⟩
  · exact ⟨-q, by simp⟩
  · exact ⟨-q, by simp⟩
  · exact ⟨q, by simp⟩

lemma remainder_of_parts (ha : parts a = .finite s m e) (hb : parts b = .finite t n f)
    (hn : n ≠ 0) (hc : c = m * pow2 (e - min e f).toNat) (hd : d = n * pow2 (f - min e f).toNat) :
    isFinite (remainder a b) = true ∧ signBit (remainder a b) = s ∧
      value (remainder a b) = signedValue s ((c % d : ℕ) * 2 ^ min e f) := by
  have hgrid : (m : ℚ) * 2 ^ e = c * 2 ^ min e f := by rw [hc, mul_zpow_eq (min_le_left e f)]
  -- one of the two keeps its last bit, and with it all its places
  have hplaces : c % d < 2 ^ 53 := by
    have hpos : 0 < d := hd ▸ Nat.mul_pos (Nat.pos_of_ne_zero hn) (Nat.two_pow_pos _)
    rcases min_choice e f with hmin | hmin
    · have hcm : c = m := by rw [hc, hmin, sub_self, Int.toNat_zero, pow2_eq, pow_zero, mul_one]
      exact (Nat.mod_le c d).trans_lt (hcm ▸ mant_lt_of_parts ha)
    · have hdn : d = n := by rw [hd, hmin, sub_self, Int.toNat_zero, pow2_eq, pow_zero, mul_one]
      exact (Nat.mod_lt c hpos).trans (hdn ▸ mant_lt_of_parts hb)
  have hexact : magnitude (doubleBits ((c % d : ℕ) * 2 ^ min e f)) = (c % d : ℕ) * 2 ^ min e f :=
    magnitude_doubleBits_eq hplaces (le_min (le_exp_of_parts ha) (le_exp_of_parts hb))
  have hrange : doubleBits ((c % d : ℕ) * 2 ^ min e f) < 2047 * pow2 52 := by
    refine Nat.lt_of_le_of_lt (doubleBits_mono (by positivity) ?_) (doubleBits_lt_of_parts ha)
    rw [hgrid]
    exact mul_le_mul_of_nonneg_right (Nat.cast_le.2 (Nat.mod_le c d)) (by positivity)
  have hbits : nearestBits (scale2 (c % d) 1 (min e f)).1 (scale2 (c % d) 1 (min e f)).2 =
      doubleBits ((c % d : ℕ) * 2 ^ min e f) := by
    obtain ⟨hden, hscale⟩ := scale2_eq (c % d) one_pos (min e f)
    rw [nearestBits_eq hden, hscale, Nat.cast_one, div_one]
  have hremainder : remainder a b = ofMagnitude s (doubleBits ((c % d : ℕ) * 2 ^ min e f)) := by
    simp only [remainder, ha, hb, if_neg hn, ← hc, ← hd, nearest?, hbits, if_pos hrange,
      Option.getD_some]
  rw [hremainder]
  exact ⟨isFinite_ofMagnitude hrange, signBit_ofMagnitude hrange.le,
    by rw [value_ofMagnitude hrange, hexact]⟩

/-- **The remainder is exact.** -/
lemma isRemainder_remainder (ha : isFinite a = true) (hb : isFinite b = true)
    (hzero : value b ≠ 0) : IsRemainder a b (remainder a b) := by
  obtain ⟨s, m, e, hpa⟩ := exists_parts_of_isFinite ha
  obtain ⟨t, n, f, hpb⟩ := exists_parts_of_isFinite hb
  have hn : n ≠ 0 := by
    rintro rfl
    cases t <;> simp [value_of_parts hpb] at hzero
  -- both numbers over the smaller exponent of the two
  obtain ⟨c, hc⟩ : ∃ c, c = m * pow2 (e - min e f).toNat := ⟨_, rfl⟩
  obtain ⟨d, hd⟩ : ∃ d, d = n * pow2 (f - min e f).toNat := ⟨_, rfl⟩
  obtain ⟨hfinite, hsign, hvalue⟩ := remainder_of_parts hpa hpb hn hc hd
  have hva : value a = signedValue s (c * 2 ^ min e f) := by
    rw [value_of_parts hpa, hc, mul_zpow_eq (min_le_left e f)]
  have hvb : value b = signedValue t (d * 2 ^ min e f) := by
    rw [value_of_parts hpb, hd, mul_zpow_eq (min_le_right e f)]
  have hpos : 0 < d := hd ▸ Nat.mul_pos (Nat.pos_of_ne_zero hn) (Nat.two_pow_pos _)
  have hsplit : (c : ℚ) - (c % d : ℕ) = (c / d : ℕ) * d := by
    rw [sub_eq_iff_eq_add]
    exact_mod_cast (Nat.div_add_mod' c d).symm
  refine ⟨hfinite, ?_, ?_, hsign.trans (signBit_of_parts hpa).symm⟩
  · rw [hva, hvalue, hvb, signedValue_sub, ← sub_mul, hsplit, mul_assoc]
    exact exists_signedValue_mul s t (c / d) _
  · rw [hvalue, hvb, abs_signedValue, abs_signedValue, abs_of_nonneg (by positivity),
      abs_of_nonneg (by positivity)]
    exact mul_lt_mul_of_pos_right (Nat.cast_lt.2 (Nat.mod_lt c hpos)) (by positivity)

/-! ### Infinite numbers -/

lemma isNaN_notANumber : isNaN notANumber = true := by decide +kernel

lemma remainder_of_isInfinite (ha : isInfinite a = true) (b : Float) :
    remainder a b = notANumber := by
  rw [isInfinite] at ha
  rw [remainder]
  cases hparts : parts a with
  | infinite s => rfl
  | finite s m e => simp [hparts] at ha
  | nan => rfl

lemma remainder_by_infinite (ha : isFinite a = true) (hb : isInfinite b = true) :
    remainder a b = a := by
  obtain ⟨s, m, e, hpa⟩ := exists_parts_of_isFinite ha
  rw [isInfinite] at hb
  cases hpb : parts b with
  | infinite t => simp only [remainder, hpa, hpb]
  | finite t n f => simp [hpb] at hb
  | nan => simp [hpb] at hb

/-- **A divisor other than zero leaves the remainder.** -/
lemma leaves_remainder (a : Float) (hb : (b == 0.0) = false) : Leaves a b (remainder a b) := by
  refine ⟨fun ha hfinite => ?_, remainder_by_infinite, fun ha => ?_⟩
  · have hzero : value b ≠ 0 := by
      rw [← value_zero, Ne, ← beq_iff_value hfinite isFinite_zero, hb]
      exact Bool.false_ne_true
    exact isRemainder_remainder ha hfinite hzero
  · rw [remainder_of_isInfinite ha]
    exact isNaN_notANumber

end Daybook.Number
