import Daybook.Proofs.Number.Value

/-!
Arithmetic of doubles. The difference and the quotient of two finite doubles are the exact ones,
rounded once: the bits that a shift drops are kept track of by two more bits, which is enough to
round to the nearest double afterwards.
-/

namespace Daybook.Number

open Float.Model (UnpackedFloat Format totalExponent)
open Float.Model.UnpackedFloat

variable {x y : Float} {s t : Bool} {m n bits : ℕ} {e : ℤ} {v w r : ℚ} {em : ExtendedMantissa}
  {acc : Accuracy}

/-! ### Putting a double together -/

lemma spelled_fraction (hm : 0 < m) (hlt : m < 2 ^ 53) (hn : n = 0 ∨ 2 ^ 52 ≤ m)
    (htop : n * pow2 52 + m < 2047 * pow2 52) :
    spelled s (n * pow2 52 + m) = .finite (signOf s) m (n - 1074) hm := by
  simp only [pow2_eq] at htop
  -- without and with the leading digit
  rcases Nat.lt_or_ge m (2 ^ 52) with hlow | hhigh
  · obtain rfl : n = 0 := by omega
    have hdiv : m / pow2 52 = 0 := Nat.div_eq_of_lt hlow
    have hmod : m % pow2 52 = m := Nat.mod_eq_of_lt hlow
    simp only [Nat.zero_mul, Nat.zero_add, spelled, hdiv, hmod]
    rw [if_neg (by decide), if_pos trivial, dif_neg (Nat.ne_of_gt hm)]
    rfl
  · have hdiv : (n * pow2 52 + m) / pow2 52 = n + 1 := by
      simp only [pow2_eq]
      omega
    have hmod : pow2 52 + (n * pow2 52 + m) % pow2 52 = m := by
      simp only [pow2_eq]
      omega
    have hexp : ((n + 1 : ℕ) : ℤ) - 1075 = n - 1074 := by omega
    simp only [spelled, hdiv, hmod, hexp]
    rw [if_neg (by omega), if_neg (by omega)]

/-- A fraction and an exponent that fit each other are packed into their bits, and into those of
infinity past the greatest double. -/
lemma pack_fraction (hm : 0 < m) (hlt : m < 2 ^ 53) (hn : n = 0 ∨ 2 ^ 52 ≤ m) :
    Float.ofModel (Float.Model.pack (.finite (signOf s) m (n - 1074) hm)) =
      ofMagnitude s (min (n * pow2 52 + m) (2047 * pow2 52)) := by
  have hmade : ∀ bits, ofMagnitude s bits = Float.ofModel
      (Float.Model.pack (UnpackedFloat.unpack .binary64 (wordOf s bits))) := fun _ => rfl
  rcases Nat.lt_or_ge (n * pow2 52 + m) (2047 * pow2 52) with htop | htop
  · rw [Nat.min_eq_left htop.le, hmade, unpack_wordOf (Nat.lt_trans htop (by decide)),
      spelled_fraction hm hlt hn htop]
  · have hbig : 2 ^ 11 ≤ ((n : ℤ) - 1074 + (1023 : ℕ) + (52 : ℕ)).toNat + 1 := by
      simp only [pow2_eq] at htop
      omega
    have hpack : UnpackedFloat.pack .binary64 (.finite (signOf s) m (n - 1074) hm) =
        UnpackedFloat.pack .binary64 (.infinity (signOf s)) := if_pos hbig
    have hinf : spelled s (2047 * pow2 52) = .infinity (signOf s) := rfl
    rw [Nat.min_eq_right htop, hmade, unpack_wordOf (by decide), hinf, Float.Model.pack,
      Float.Model.pack]
    simp only [hpack]

lemma pack_zero (s : Bool) :
    Float.ofModel (Float.Model.pack (.zero (signOf s))) = ofMagnitude s 0 := by
  cases s <;> rfl

/-! ### What a shift drops -/

/-- A mantissa and its two further bits stand for a number: the first one is the half below the
mantissa, the second one is set if anything is left below that. -/
def Stands (em : ExtendedMantissa) (r : ℚ) : Prop :=
  match em.roundBit, em.stickyBit with
  | false, false => r = em.mantissa
  | false, true => em.mantissa < r ∧ r < em.mantissa + 1 / 2
  | true, false => r = em.mantissa + 1 / 2
  | true, true => em.mantissa + 1 / 2 < r ∧ r < em.mantissa + 1

lemma Stands.bounds (h : Stands em r) : em.mantissa ≤ r ∧ r < em.mantissa + 1 := by
  obtain ⟨m, _ | _, _ | _⟩ := em <;> simp only [Stands] at h ⊢ <;> constructor <;> linarith

/-- **One shift** to the right halves the number. -/
lemma Stands.shiftRightOne (h : Stands em r) : Stands em.shiftRightOne (r / 2) := by
  obtain ⟨m, round, sticky⟩ := em
  have hsplit : ((m / 2 : ℕ) : ℚ) * 2 + (m % 2 : ℕ) = m := by
    exact_mod_cast Nat.div_add_mod' m 2
  have hone : (1 != 0) = true := rfl
  rcases Nat.mod_two_eq_zero_or_one m with hmod | hmod <;> rw [hmod] at hsplit <;>
    push_cast at hsplit <;> rcases round with _ | _ <;> rcases sticky with _ | _ <;>
    simp only [Stands, ExtendedMantissa.shiftRightOne, hmod, bne_self_eq_false, hone,
      Bool.or_false, Bool.or_true] at h ⊢ <;>
    first
      | linarith
      | (constructor <;> linarith)

/-- **All shifts** divide it by a power of two. -/
lemma Stands.shiftRight (h : Stands em r) (n : ℕ) : Stands (em >>> n) (r / 2 ^ n) := by
  have hrepeat : em >>> n = n.repeat ExtendedMantissa.shiftRightOne em := rfl
  rw [hrepeat]
  induction n with
  | zero => simpa [Nat.repeat] using h
  | succ n ih =>
    rw [pow_succ, ← div_div]
    exact (ih rfl).shiftRightOne

lemma Stands.roundedMantissa (h : Stands em r) : em.roundedMantissa = nearestWhole r := by
  obtain ⟨hle, hlt⟩ := h.bounds
  have hfloor : ⌊r⌋₊ = em.mantissa :=
    (Nat.floor_eq_iff ((Nat.cast_nonneg _).trans hle)).2 ⟨hle, hlt⟩
  obtain ⟨m, _ | _, _ | _⟩ := em <;>
    simp only [Stands] at h hfloor ⊢ <;>
    simp only [ExtendedMantissa.roundedMantissa, ExtendedMantissa.accuracy,
      Accuracy.roundToNearestEven, nearestWhole, hfloor] <;>
    split_ifs <;> first | omega | (exfalso; linarith)

lemma targetExponent_eq (e : ℤ) : Format.binary64.targetExponent e = max (e - 53) (-1074) := rfl

lemma lastBit_eq_targetExponent (hv : 0 < v) (he : e ≤ lastBit v) (hlow : m ≤ v / 2 ^ e)
    (hhigh : v / 2 ^ e < m + 1) :
    Format.binary64.targetExponent (totalExponent m e) = lastBit v := by
  have hpow : (0 : ℚ) < 2 ^ e := by positivity
  have hlog : Int.log 2 v = Int.log 2 (v / 2 ^ e) + e := by
    rw [← log_mul_zpow (by positivity), div_mul_cancel₀ _ hpow.ne']
  rw [targetExponent_eq, totalExponent]
  rcases Nat.eq_zero_or_pos m with rfl | hm
  · -- nothing of the number is above the last bit, so that this is the least one
    have hlt : Int.log 2 v < e := by
      rwa [log_lt_iff hv, ← div_lt_one hpow, ← zero_add (1 : ℚ), ← Nat.cast_zero]
    have hzero : Nat.log2 0 = 0 := rfl
    rw [lastBit] at he ⊢
    omega
  · rw [log_of_floor hm hlow hhigh] at hlog
    rw [lastBit, hlog]
    omega

lemma carried_eq (hm : m ≤ 2 ^ 53) (hn : n = 0 ∨ 2 ^ 52 ≤ m) :
    ∃ k l : ℕ, shiftToTargetExponent .binary64 m ((n : ℤ) - 1074) .exact =
        (.ofMantissaAndAccuracy l .exact, (k : ℤ) - 1074) ∧
      k * pow2 52 + l = n * pow2 52 + m ∧ l < 2 ^ 53 ∧ (k = 0 ∨ 2 ^ 52 ≤ l) := by
  -- rounding up may carry into a new leading digit, and one more shift takes it back
  rcases hm.eq_or_lt with rfl | hlt
  · refine ⟨n + 1, 2 ^ 52, ?_, by simp only [pow2_eq]; omega, by decide, .inr le_rfl⟩
    have hshift : Format.binary64.targetExponent (totalExponent (2 ^ 53) ((n : ℤ) - 1074)) -
        ((n : ℤ) - 1074) = 1 := by
      rw [targetExponent_eq, totalExponent, Nat.log2_two_pow]
      omega
    simp only [shiftToTargetExponent, shiftToExponent, hshift]
    refine Prod.ext rfl ?_
    simp
    omega
  · refine ⟨n, m, ?_, rfl, hlt, hn⟩
    have hlog : m.log2 ≤ 52 := by
      rcases Nat.eq_zero_or_pos m with rfl | hm
      · decide
      · exact Nat.le_of_lt_succ ((Nat.log2_lt (Nat.ne_of_gt hm)).2 hlt)
    have hshift : (Format.binary64.targetExponent (totalExponent m ((n : ℤ) - 1074)) -
        ((n : ℤ) - 1074)).toNat = 0 := by
      rw [targetExponent_eq, totalExponent]
      omega
    simp only [shiftToTargetExponent, shiftToExponent, hshift]
    refine Prod.ext rfl ?_
    simp

/-! ### Rounding once -/

/-- The double with the given sign that is nearest to a number that is not negative; past the
greatest one it is infinity. -/
def roundTo (negative : Bool) (v : ℚ) : Float :=
  ofMagnitude negative (min (doubleBits v) (2047 * pow2 52))

/-- **Rounding what some shifts have left** is rounding the number itself. -/
lemma roundWithAccuracy_eq (hv : 0 < v) (he : e ≤ lastBit v)
    (h : Stands (.ofMantissaAndAccuracy m acc) (v / 2 ^ e)) :
    Float.ofModel (Float.Model.pack (roundWithAccuracy .binary64 (signOf s) m e acc)) =
      roundTo s v := by
  have hmant : (ExtendedMantissa.ofMantissaAndAccuracy m acc).mantissa = m := by
    rcases acc with _ | (_ | _ | _) <;> rfl
  have hbounds := h.bounds
  rw [hmant] at hbounds
  have htarget := lastBit_eq_targetExponent hv he hbounds.1 hbounds.2
  have hleast := le_lastBit v
  obtain ⟨k, hk⟩ := Int.eq_ofNat_of_zero_le (a := lastBit v - e) (by omega)
  obtain ⟨n, hn⟩ := Int.eq_ofNat_of_zero_le (a := lastBit v + 1074) (by omega)
  -- the first shift leaves the last bit at its place, and rounding is done there
  have hround : (ExtendedMantissa.ofMantissaAndAccuracy m acc >>> k).roundedMantissa =
      nearestWhole (v / 2 ^ lastBit v) := by
    rw [(h.shiftRight k).roundedMantissa, div_div, ← zpow_natCast, ← zpow_add₀ two_ne_zero,
      ← hk, add_sub_cancel]
  have hfirst := fraction_fits hv
  rw [hn, Int.toNat_natCast] at hfirst
  have hshift : shiftToTargetExponent .binary64 m e acc =
      (ExtendedMantissa.ofMantissaAndAccuracy m acc >>> k, (n : ℤ) - 1074) := by
    simp only [shiftToTargetExponent, shiftToExponent, htarget, hk, Int.toNat_natCast]
    refine Prod.ext rfl ?_
    simp only
    omega
  obtain ⟨k', l, hcarry, hbits, hl, hk'⟩ := carried_eq (fraction_le hv) hfirst
  have hdouble : doubleBits v = k' * pow2 52 + l := by
    rw [hbits, doubleBits_of_pos hv, hn, Int.toNat_natCast]
  have hexact : (ExtendedMantissa.ofMantissaAndAccuracy l .exact).mantissa = l := rfl
  simp only [roundTo, hdouble, roundWithAccuracy, hshift, hround, hcarry, hexact]
  split_ifs with hzero
  · obtain rfl : k' = 0 := by omega
    rw [hzero]
    exact pack_zero s
  · exact pack_fraction (Nat.pos_of_ne_zero hzero) hl hk'

lemma targetExponent_whole (hm : 0 < m) (e : ℤ) :
    Format.binary64.targetExponent (totalExponent m e) = lastBit (m * 2 ^ e) := by
  have hpos : (0 : ℚ) < m := by exact_mod_cast hm
  rw [targetExponent_eq, totalExponent, lastBit, log_mul_zpow hpos,
    log_of_floor hm le_rfl (by linarith)]
  omega

lemma decreaseExponent_eq {c : ℤ} (hc : c ≤ e) :
    (decreaseExponent m e c).2 = c ∧ ((decreaseExponent m e c).1 : ℚ) * 2 ^ c = m * 2 ^ e := by
  obtain ⟨k, hk⟩ := Int.eq_ofNat_of_zero_le (a := e - c) (by omega)
  obtain rfl : e = c + k := by omega
  simp only [decreaseExponent, hk, Int.toNat_natCast, Nat.shiftLeft_eq, add_sub_cancel_right]
  refine ⟨trivial, ?_⟩
  rw [zpow_add₀ two_ne_zero, zpow_natCast, Nat.cast_mul, Nat.cast_pow, Nat.cast_ofNat, mul_assoc,
    mul_comm ((2 : ℚ) ^ k)]

lemma round_eq (hm : 0 < m) (e : ℤ) :
    Float.ofModel (Float.Model.pack (UnpackedFloat.round .binary64 (signOf s) m e)) =
      roundTo s (m * 2 ^ e) := by
  have hv : (0 : ℚ) < m * 2 ^ e := by positivity
  simp only [UnpackedFloat.round, targetExponent_whole hm]
  generalize hc : lastBit (m * 2 ^ e) = c
  rcases le_total c e with hle | hle
  · obtain ⟨hexp, hmant⟩ := decreaseExponent_eq (m := m) hle
    have hquot : (m : ℚ) * 2 ^ e / 2 ^ c = (decreaseExponent m e c).1 := by
      rw [← hmant, mul_div_cancel_right₀ _ (by positivity)]
    rw [hexp]
    exact roundWithAccuracy_eq hv hc.ge hquot
  · have hnot : (e - c).toNat = 0 := by omega
    have hquot : (m : ℚ) * 2 ^ e / 2 ^ e = m := mul_div_cancel_right₀ _ (by positivity)
    simp only [decreaseExponent, hnot, Nat.shiftLeft_zero, Nat.cast_zero, sub_zero]
    exact roundWithAccuracy_eq hv (hc ▸ hle) hquot

/-- A double is what a number is rounded to. The sign of the number is kept, and a zero may have
either one. -/
def Rounds (z : Float) (v : ℚ) : Prop :=
  ∃ s, z = roundTo s |v| ∧ (v < 0 → s = true) ∧ (0 < v → s = false)

lemma rounds_roundTo (hv : 0 ≤ v) (s : Bool) : Rounds (roundTo s v) (signedValue s v) := by
  refine ⟨s, ?_, ?_, ?_⟩
  · cases s <;> simp [abs_of_nonneg hv]
  · cases s <;> simp [hv]
  · cases s <;> simp [hv]

lemma rounds_zero (s : Bool) : Rounds (ofMagnitude s 0) 0 :=
  ⟨s, by simp [roundTo], nofun, nofun⟩

lemma rounds_normalize (k e : ℤ) (s : Bool) : Rounds
    (Float.ofModel (Float.Model.pack (UnpackedFloat.normalize .binary64 k e (signOf s))))
    (k * 2 ^ e) := by
  -- the sign is taken off before the rounding
  rcases lt_trichotomy k 0 with hk | rfl | hk
  · obtain ⟨m, hm⟩ := Int.eq_ofNat_of_zero_le (a := -k) (by omega)
    have hv : (k : ℚ) * 2 ^ e = signedValue true (m * 2 ^ e) := by
      rw [signedValue_true, ← neg_mul, ← Int.cast_natCast m, ← hm, Int.cast_neg, neg_neg]
    simp only [UnpackedFloat.normalize, Int.compare_eq_lt.2 hk, hm, Int.toNat_natCast]
    have hround := round_eq (s := true) (m := m) (by omega) e
    rw [signOf, if_pos rfl] at hround
    rw [hv, hround]
    exact rounds_roundTo (by positivity) true
  · simp only [UnpackedFloat.normalize, Int.compare_eq_eq.2, Int.cast_zero, zero_mul, pack_zero]
    exact rounds_zero s
  · obtain ⟨m, rfl⟩ := Int.eq_ofNat_of_zero_le hk.le
    simp only [UnpackedFloat.normalize, Int.compare_eq_gt.2 hk, Int.toNat_natCast]
    have hround := round_eq (s := false) (m := m) (by omega) e
    rw [signOf, if_neg (by decide)] at hround
    rw [hround, Int.cast_natCast]
    exact rounds_roundTo (by positivity) false

/-! ### The parts of a double -/

/-- A finite double is a zero, or it has a fraction and an exponent that fit each other. -/
inductive Unpacks (negative : Bool) (bits : ℕ) : UnpackedFloat → Prop
  | zero : bits = 0 → Unpacks negative bits (.zero (signOf negative))
  | finite {n m : ℕ} (hm : 0 < m) : m < 2 ^ 53 → (n = 0 ∨ 2 ^ 52 ≤ m) → bits = n * pow2 52 + m →
      Unpacks negative bits (.finite (signOf negative) m (n - 1074) hm)

lemma unpacks_spelled (h : bits < 2047 * pow2 52) : Unpacks s bits (spelled s bits) := by
  obtain ⟨n, m, rfl, hlt, hn⟩ := exists_fraction bits
  rcases Nat.eq_zero_or_pos m with rfl | hm
  · obtain rfl : n = 0 := by omega
    exact .zero rfl
  · rw [spelled_fraction hm hlt hn h]
    exact .finite hm hlt hn rfl

lemma roundTo_magnitude (s : Bool) (bits : ℕ) :
    roundTo s (magnitude bits) = ofMagnitude s (min bits (2047 * pow2 52)) := by
  rw [roundTo, doubleBits_magnitude]

@[simp] lemma signedValue_zero (s : Bool) : signedValue s 0 = 0 := by
  cases s <;> simp

lemma signedValue_not (s : Bool) (v : ℚ) : signedValue (!s) v = -signedValue s v := by
  cases s <;> simp

lemma rounds_self (hx : isFinite x = true) : Rounds x (value x) := by
  obtain ⟨s, bits, hlt, rfl⟩ := exists_of_isFinite hx
  have hround := rounds_roundTo (magnitude_nonneg bits) s
  rwa [roundTo_magnitude, Nat.min_eq_left hlt.le, ← value_ofMagnitude hlt] at hround

lemma signedValue_mul (s : Bool) (v w : ℚ) : signedValue s v * w = signedValue s (v * w) := by
  cases s <;> simp

lemma neg_signOf (s : Bool) : -signOf s = signOf (!s) := by
  cases s <;> rfl

lemma apply_signOf (s : Bool) (m : ℕ) : (((signOf s).apply m : ℤ) : ℚ) = signedValue s m := by
  cases s <;> simp [signOf, Sign.apply]

/-! ### Differences -/

lemma sub_zero_zero (s t : Bool) :
    UnpackedFloat.sub .binary64 (.zero (signOf s)) (.zero (signOf t)) =
      .zero (signOf (s && !t)) := by
  cases s <;> cases t <;> rfl

lemma exists_sub_finite {k : ℕ} {c : ℤ} (hm : 0 < m) (hk : 0 < k) : ∃ d b : ℤ,
    UnpackedFloat.sub .binary64 (.finite (signOf s) m e hm) (.finite (signOf t) k c hk) =
      UnpackedFloat.normalize .binary64 d b (signOf false) ∧
    (d : ℚ) * 2 ^ b = signedValue s (m * 2 ^ e) - signedValue t (k * 2 ^ c) := by
  refine ⟨(signOf s).apply (decreaseExponent m e (min e c)).1 -
    (signOf t).apply (decreaseExponent k c (min e c)).1, min e c, rfl, ?_⟩
  rw [Int.cast_sub, apply_signOf, apply_signOf, sub_mul, signedValue_mul, signedValue_mul,
    (decreaseExponent_eq (min_le_left e c)).2, (decreaseExponent_eq (min_le_right e c)).2]

/-- **The difference of two finite doubles is rounded once.** -/
lemma rounds_sub (hx : isFinite x = true) (hy : isFinite y = true) :
    Rounds (x - y) (value x - value y) := by
  obtain ⟨s, a, ha, rfl⟩ := exists_of_isFinite hx
  obtain ⟨t, b, hb, rfl⟩ := exists_of_isFinite hy
  have hmodel : ofMagnitude s a - ofMagnitude t b = Float.ofModel (Float.Model.pack
      (UnpackedFloat.sub .binary64 (ofMagnitude s a).toModel.unpack
        (ofMagnitude t b).toModel.unpack)) := rfl
  rw [hmodel, unpack_ofMagnitude ha.le, unpack_ofMagnitude hb.le, value_ofMagnitude ha,
    value_ofMagnitude hb]
  have hua := @unpacks_spelled s a ha
  have hub := @unpacks_spelled t b hb
  -- from here on only the values of the two operands count, not their bits
  generalize spelled s a = u at hua ⊢
  generalize spelled t b = w at hub ⊢
  cases hua with
  | zero hzero =>
    cases hub with
    | zero hzero' =>
      rw [sub_zero_zero, pack_zero, hzero, hzero', magnitude_zero, signedValue_zero,
        signedValue_zero, sub_zero]
      exact rounds_zero _
    | @finite l k hk hlt hl hb' =>
      have hsub : UnpackedFloat.sub .binary64 (.zero (signOf s))
          (.finite (signOf t) k (l - 1074) hk) = .finite (-signOf t) k (l - 1074) hk := rfl
      rw [hsub, neg_signOf, pack_fraction hk hlt hl, ← hb', ← roundTo_magnitude, hzero,
        magnitude_zero, signedValue_zero, zero_sub, ← signedValue_not]
      exact rounds_roundTo (magnitude_nonneg b) (!t)
  | @finite n m hm hlt hn ha' =>
    cases hub with
    | zero hzero =>
      have hsub : UnpackedFloat.sub .binary64 (.finite (signOf s) m (n - 1074) hm)
          (.zero (signOf t)) = .finite (signOf s) m (n - 1074) hm := rfl
      rw [hsub, pack_fraction hm hlt hn, ← ha', ← roundTo_magnitude, hzero, magnitude_zero,
        signedValue_zero, sub_zero]
      exact rounds_roundTo (magnitude_nonneg a) s
    | @finite l k hk hlt' hl hb' =>
      obtain ⟨d, c, hsub, hdiff⟩ := exists_sub_finite (s := s) (t := t) (e := n - 1074)
        (c := l - 1074) hm hk
      rw [hsub, ha', hb', magnitude_add hlt.le hn, magnitude_add hlt'.le hl, ← hdiff]
      exact rounds_normalize d c false

/-! ### Quotients -/

lemma stands_quotient {den : ℕ} (hd : 0 < den) (num : ℕ) :
    Stands (.ofMantissaAndAccuracy (num / den) (accuracyOfFraction (num % den) den))
      (num / den) := by
  have hpos : (0 : ℚ) < den := by exact_mod_cast hd
  have hmod : (num % den : ℕ) < den := Nat.mod_lt _ hd
  have hsplit : ((num / den : ℕ) : ℚ) + (num % den : ℕ) / den = num / den := by
    rw [eq_div_iff hpos.ne', add_mul, div_mul_cancel₀ _ hpos.ne']
    exact_mod_cast Nat.div_add_mod' num den
  have hrest : ((num % den : ℕ) : ℚ) / den < 1 := by
    rw [div_lt_one hpos]
    exact_mod_cast hmod
  rw [accuracyOfFraction]
  split_ifs with hzero
  · rw [hzero, Nat.cast_zero, zero_div, add_zero] at hsplit
    exact hsplit.symm
  have hrest' : (0 : ℚ) < (num % den : ℕ) / den := by
    have : 0 < num % den := Nat.pos_of_ne_zero hzero
    positivity
  have hhalf : (num % den : ℕ) / (den : ℚ) - 1 / 2 = (2 * (num % den : ℕ) - den) / (2 * den) := by
    field_simp
  -- the remainder against half of the divisor
  rcases h : compare (2 * (num % den)) den with _ | _ | _ <;>
    simp only [ExtendedMantissa.ofMantissaAndAccuracy, Stands]
  · have hlt : (2 : ℚ) * (num % den : ℕ) < den := by exact_mod_cast Nat.compare_eq_lt.1 h
    have hbelow := div_neg_of_neg_of_pos (sub_neg.2 hlt) (mul_pos two_pos hpos)
    constructor <;> linarith
  · have heq : (2 : ℚ) * (num % den : ℕ) = den := by exact_mod_cast Nat.compare_eq_eq.1 h
    rw [heq, sub_self, zero_div] at hhalf
    linarith
  · have hgt : den < (2 : ℚ) * (num % den : ℕ) := by exact_mod_cast Nat.compare_eq_gt.1 h
    have habove := div_pos (sub_pos.2 hgt) (mul_pos two_pos hpos)
    constructor <;> linarith

section

variable {k : ℕ} {c : ℤ} (hm : 0 < m) (hk : 0 < k)

include hm hk

lemma targetExponent_le_lastBit : Format.binary64.targetExponent
    (totalExponent m e - totalExponent k c) ≤ lastBit (m * 2 ^ e / (k * 2 ^ c)) := by
  have hmpos : (0 : ℚ) < m := by exact_mod_cast hm
  have hkpos : (0 : ℚ) < k := by exact_mod_cast hk
  have hshift : (m : ℚ) * 2 ^ e / (k * 2 ^ c) = m / k * 2 ^ (e - c) := by
    rw [zpow_sub₀ two_ne_zero, mul_div_mul_comm]
  have hlog := (le_log_iff (div_pos hmpos hkpos)).2 (zpow_le_div hm hk)
  rw [targetExponent_eq, hshift, lastBit, log_mul_zpow (div_pos hmpos hkpos), totalExponent,
    totalExponent]
  omega

lemma div_finite_eq : Float.ofModel (Float.Model.pack (UnpackedFloat.div .binary64
    (.finite (signOf s) m e hm) (.finite (signOf t) k c hk))) =
      roundTo (s ^^ t) (m * 2 ^ e / (k * 2 ^ c)) := by
  have hsign : signOf s / signOf t = signOf (s ^^ t) := by
    cases s <;> cases t <;> rfl
  have hlast := targetExponent_le_lastBit (e := e) (c := c) hm hk
  have hmpos : (0 : ℚ) < m := by exact_mod_cast hm
  have hkpos : (0 : ℚ) < k := by exact_mod_cast hk
  simp only [UnpackedFloat.div, divCore, hsign]
  -- all that matters of the exponent is that it reaches the last bit
  generalize Format.binary64.targetExponent (totalExponent m e - totalExponent k c) = b at hlast ⊢
  obtain ⟨n, hn⟩ := Int.eq_ofNat_of_zero_le (a := e - c - min (e - c) b) (by omega)
  have hscale : (m : ℚ) * 2 ^ e / (k * 2 ^ c) / 2 ^ min (e - c) b = (m <<< n : ℕ) / k := by
    have hpow : (2 : ℚ) ^ n = 2 ^ e / 2 ^ c / 2 ^ min (e - c) b := by
      rw [← zpow_natCast, ← hn, zpow_sub₀ two_ne_zero, zpow_sub₀ two_ne_zero]
    rw [Nat.shiftLeft_eq, Nat.cast_mul, Nat.cast_pow, Nat.cast_ofNat, hpow]
    field_simp
  rw [hn, Int.toNat_natCast]
  refine roundWithAccuracy_eq (by positivity) ((min_le_right _ _).trans hlast) ?_
  rw [hscale]
  exact stands_quotient hk _

end

/-- **The quotient of two finite doubles is rounded once**, unless it is by zero. -/
lemma rounds_div (hx : isFinite x = true) (hy : isFinite y = true) (hzero : value y ≠ 0) :
    Rounds (x / y) (value x / value y) := by
  obtain ⟨s, a, ha, rfl⟩ := exists_of_isFinite hx
  obtain ⟨t, b, hb, rfl⟩ := exists_of_isFinite hy
  have hmodel : ofMagnitude s a / ofMagnitude t b = Float.ofModel (Float.Model.pack
      (UnpackedFloat.div .binary64 (ofMagnitude s a).toModel.unpack
        (ofMagnitude t b).toModel.unpack)) := rfl
  rw [value_ofMagnitude hb] at hzero
  rw [hmodel, unpack_ofMagnitude ha.le, unpack_ofMagnitude hb.le, value_ofMagnitude ha,
    value_ofMagnitude hb]
  have hua := @unpacks_spelled s a ha
  have hub := @unpacks_spelled t b hb
  -- from here on only the values of the two operands count, not their bits
  generalize spelled s a = u at hua ⊢
  generalize spelled t b = w at hub ⊢
  cases hub with
  | zero hb' =>
    rw [hb', magnitude_zero, signedValue_zero] at hzero
    exact absurd rfl hzero
  | @finite l k hk hlt' hl hb' =>
    cases hua with
    | zero ha' =>
      have hdiv : UnpackedFloat.div .binary64 (.zero (signOf s))
          (.finite (signOf t) k (l - 1074) hk) = .zero (signOf (s ^^ t)) := by
        cases s <;> cases t <;> rfl
      rw [hdiv, pack_zero, ha', magnitude_zero, signedValue_zero, zero_div]
      exact rounds_zero _
    | @finite n m hm hlt hn ha' =>
      have hsigned : signedValue s (magnitude a) / signedValue t (magnitude b) =
          signedValue (s ^^ t) (magnitude a / magnitude b) := by
        cases s <;> cases t <;> simp [div_neg, neg_div]
      rw [div_finite_eq hm hk, hsigned, ha', hb', magnitude_add hlt.le hn,
        magnitude_add hlt'.le hl]
      exact rounds_roundTo (by positivity) _

/-! ### What rounding keeps -/

/-- The number that a number which is not negative is rounded to. -/
def rounded (v : ℚ) : ℚ := magnitude (doubleBits v)

lemma rounded_nonneg (v : ℚ) : 0 ≤ rounded v := magnitude_nonneg _

lemma rounded_mono (hv : 0 ≤ v) (h : v ≤ w) : rounded v ≤ rounded w :=
  magnitude_le_iff.2 (doubleBits_mono hv h)

/-- **No difference of doubles is rounded to zero**, since both are multiples of the least one. -/
lemma rounded_sub_pos (h : value y < value x) : 0 < rounded (value x - value y) := by
  obtain ⟨i, hi⟩ := exists_mul_least x
  obtain ⟨j, hj⟩ := exists_mul_least y
  have hpos : (0 : ℚ) < magnitude 1 := magnitude_pos_iff.2 one_pos
  have hij : j < i := by
    rw [hi, hj] at h
    exact_mod_cast lt_of_mul_lt_mul_right h hpos.le
  have hle : magnitude 1 ≤ value x - value y := by
    have : (j : ℚ) + 1 ≤ i := by exact_mod_cast hij
    rw [hi, hj]
    nlinarith
  calc (0 : ℚ) < magnitude 1 := hpos
    _ = rounded (magnitude 1) := by rw [rounded, doubleBits_magnitude]
    _ ≤ rounded (value x - value y) := rounded_mono hpos.le hle

namespace Rounds

variable {z u : Float}

lemma isFinite_iff (h : Rounds z v) : isFinite z = true ↔ doubleBits |v| < 2047 * pow2 52 := by
  obtain ⟨s, rfl, -⟩ := h
  rcases Nat.lt_or_ge (doubleBits |v|) (2047 * pow2 52) with hlt | hge
  · rw [roundTo, Nat.min_eq_left hlt.le]
    exact iff_of_true (isFinite_ofMagnitude hlt) hlt
  · rw [roundTo, Nat.min_eq_right hge]
    exact iff_of_false (by rw [← infinity, not_isFinite_infinity]; decide) (Nat.not_lt.2 hge)

lemma value_eq (h : Rounds z v) (hv : 0 ≤ v) (hz : isFinite z = true) : value z = rounded v := by
  have hlt := h.isFinite_iff.1 hz
  obtain ⟨s, rfl, -, hpos⟩ := h
  rw [abs_of_nonneg hv] at hlt ⊢
  rw [roundTo, Nat.min_eq_left hlt.le, value_ofMagnitude hlt, rounded]
  rcases hv.eq_or_lt with rfl | hv
  · rw [doubleBits_zero, magnitude_zero, signedValue_zero]
  · rw [hpos hv, signedValue_false]

lemma isFinite_of_le (h : Rounds z v) (hu : Rounds u w) (hv : 0 ≤ v) (hvw : v ≤ w)
    (hfin : isFinite u = true) : isFinite z = true := by
  rw [hu.isFinite_iff, abs_of_nonneg (hv.trans hvw)] at hfin
  rw [h.isFinite_iff, abs_of_nonneg hv]
  exact Nat.lt_of_le_of_lt (doubleBits_mono hv hvw) hfin

lemma eq_infinity (h : Rounds z v) (hv : 0 < v) (hz : isFinite z = false) :
    z = infinity false := by
  have hnot : ¬ doubleBits |v| < 2047 * pow2 52 := by
    rw [← h.isFinite_iff, hz]
    decide
  obtain ⟨s, rfl, -, hpos⟩ := h
  rw [roundTo, Nat.min_eq_right (Nat.not_lt.1 hnot), hpos hv, infinity]

end Rounds

/-- **A double is left as it is.** -/
lemma rounded_value (hx : isFinite x = true) (hpos : 0 ≤ value x) :
    rounded (value x) = value x :=
  ((rounds_self hx).value_eq hpos hx).symm

@[simp] lemma rounded_zero : rounded 0 = 0 := by
  rw [rounded, doubleBits_zero, magnitude_zero]

@[simp] lemma rounded_one : rounded 1 = 1 := by
  have h := rounded_value isFinite_one (by rw [value_one]; exact zero_le_one)
  rwa [value_one] at h

end Daybook.Number
