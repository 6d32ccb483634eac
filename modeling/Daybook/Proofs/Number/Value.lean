import Daybook.Proofs.Number.Rounding

/-!
The numbers that finite doubles stand for. A finite double is a sign and the bits of a magnitude,
and doubles compare as these numbers do. All of them are multiples of the least one above zero.
-/

namespace Daybook.Number

variable {x y : Float} {s t : Bool} {a b m bits : ℕ} {e k : ℤ} {v w : ℚ}

def signedValue (negative : Bool) (v : ℚ) : ℚ := if negative then -v else v

@[simp] lemma signedValue_false (v : ℚ) : signedValue false v = v := rfl

@[simp] lemma signedValue_true (v : ℚ) : signedValue true v = -v := rfl

lemma abs_signedValue (s : Bool) (v : ℚ) : |signedValue s v| = |v| := by
  cases s
  · rfl
  · exact abs_neg v

lemma signedValue_sub (s : Bool) (v w : ℚ) :
    signedValue s v - signedValue s w = signedValue s (v - w) := by
  cases s
  · rfl
  · simp only [signedValue_true]
    ring

/-- The number a finite double stands for. -/
def value (x : Float) : ℚ :=
  match parts x with
  | .finite negative m e => signedValue negative (m * 2 ^ e)
  | _ => 0

/-- Whether the sign of a double is minus; a zero has a sign too. -/
def signBit (x : Float) : Bool := decide (pow2 63 ≤ x.toBits.toNat)

/-! ### From bits to parts -/

lemma toNat_toBits_ofMagnitude (h : bits ≤ 2047 * pow2 52) :
    (ofMagnitude s bits).toBits.toNat = if s then pow2 63 + bits else bits := by
  have hlt : bits < pow2 63 := Nat.lt_of_le_of_lt h (by decide)
  have hmodel : (ofMagnitude s bits).toBits.toBitVec = Float.Model.UnpackedFloat.pack .binary64
      (Float.Model.UnpackedFloat.unpack .binary64 (wordOf s bits)) := rfl
  rw [← UInt64.toNat_toBitVec, hmodel, Float.Model.UnpackedFloat.pack_unpack,
    isNaNBits_wordOf h]
  exact toNat_wordOf hlt

lemma parts_ofMagnitude (h : bits < 2047 * pow2 52) : ∃ m e,
    parts (ofMagnitude s bits) = .finite s m e ∧ magnitude bits = m * 2 ^ e := by
  -- sign, exponent and fraction taken apart again
  have hsign : pow2 63 ≤ (if s then pow2 63 + bits else bits) ↔ s = true := by
    have : bits < pow2 63 := Nat.lt_trans h (by decide)
    cases s <;> simp
    omega
  have hexp : (if s then pow2 63 + bits else bits) / pow2 52 % pow2 11 = bits / pow2 52 := by
    simp only [pow2_eq] at *
    split_ifs <;> omega
  have hfract : (if s then pow2 63 + bits else bits) % pow2 52 = bits % pow2 52 := by
    simp only [pow2_eq]
    split_ifs <;> omega
  have htop : bits / pow2 52 ≠ 2047 := by
    simp only [pow2_eq] at *
    omega
  simp only [parts, toNat_toBits_ofMagnitude h.le, hsign, hexp, hfract, if_neg htop,
    Bool.decide_eq_true, magnitude]
  split_ifs with hzero hlow hlow
  · refine ⟨_, _, rfl, ?_⟩
    rw [Nat.mod_eq_of_lt hlow]
  · exact absurd (Nat.lt_of_div_eq_zero (by decide) hzero) ‹_›
  · exact absurd (Nat.div_eq_of_lt hlow) hzero
  · exact ⟨_, _, rfl, rfl⟩

lemma signBit_ofMagnitude (h : bits ≤ 2047 * pow2 52) : signBit (ofMagnitude s bits) = s := by
  have hlt : bits < pow2 63 := Nat.lt_of_le_of_lt h (by decide)
  rw [signBit, toNat_toBits_ofMagnitude h]
  cases s <;> simp
  omega

lemma signBit_of_parts (h : parts x = .finite s m e) : signBit x = s := by
  simp only [parts] at h
  split_ifs at h <;> cases h <;> rfl

lemma isFinite_of_parts (h : parts x = .finite s m e) : isFinite x = true := by
  rw [isFinite, h]

lemma value_of_parts (h : parts x = .finite s m e) : value x = signedValue s (m * 2 ^ e) := by
  rw [value, h]

lemma exists_parts_of_isFinite (h : isFinite x = true) : ∃ s m e, parts x = .finite s m e := by
  rw [isFinite] at h
  split at h
  · exact ⟨_, _, _, ‹_›⟩
  · cases h

lemma mul_zpow_eq (h : k ≤ e) (m : ℕ) :
    (m : ℚ) * 2 ^ e = (m * pow2 (e - k).toNat : ℕ) * 2 ^ k := by
  obtain ⟨i, hi⟩ := Int.eq_ofNat_of_zero_le (sub_nonneg.2 h)
  have he : e = i + k := by omega
  rw [hi, he, Int.toNat_natCast, zpow_add₀ two_ne_zero, zpow_natCast, pow2_eq, Nat.cast_mul,
    Nat.cast_pow, Nat.cast_ofNat, mul_assoc]

lemma isFinite_ofMagnitude (h : bits < 2047 * pow2 52) : isFinite (ofMagnitude s bits) = true := by
  obtain ⟨m, e, hparts, -⟩ := @parts_ofMagnitude s bits h
  rw [isFinite, hparts]

@[simp] lemma value_ofMagnitude (h : bits < 2047 * pow2 52) :
    value (ofMagnitude s bits) = signedValue s (magnitude bits) := by
  obtain ⟨m, e, hparts, hmag⟩ := @parts_ofMagnitude s bits h
  rw [value, hparts, hmag]

/-- **A finite double is a sign and the bits of a magnitude.** -/
lemma exists_of_isFinite (h : isFinite x = true) :
    ∃ s bits, bits < 2047 * pow2 52 ∧ x = ofMagnitude s bits := by
  have hlt : x.toBits.toNat < 2 ^ 64 := x.toBits.toNat_lt
  have htop : x.toBits.toNat / pow2 52 % pow2 11 ≠ 2047 := by
    rintro htop
    simp only [isFinite, parts, if_pos htop] at h
    split_ifs at h
  refine ⟨_, _, ?_, (ofMagnitude_toBits x).symm⟩
  simp only [pow2_eq] at *
  omega

lemma isNaN_of_isFinite (h : isFinite x = true) : x.isNaN = false := by
  obtain ⟨s, bits, hlt, rfl⟩ := exists_of_isFinite h
  exact isNaN_ofMagnitude hlt.le

lemma value_of_not_isFinite (h : isFinite x = false) : value x = 0 := by
  rw [isFinite] at h
  rw [value]
  split
  · rename_i hparts
    rw [hparts] at h
    cases h
  · rfl

lemma not_isFinite_infinity (s : Bool) : isFinite (infinity s) = false := by
  cases s <;> decide +kernel

/-! ### The order -/

lemma place_spelled_true (bits : ℕ) (h : bits ≤ 2047 * pow2 52) :
    place (spelled true bits) = -place (spelled false bits) := by
  have hnum : (spelled false bits).isNaN = false := by
    rw [← unpack_ofMagnitude h]
    exact isNaN_ofMagnitude h
  rw [← place_neg hnum, neg_spelled, Bool.not_false]

/-- The bits below the sign, negative where the sign is set. -/
def signedBits (negative : Bool) (bits : ℕ) : ℤ := if negative then -bits else bits

lemma place_spelled_cases (h : bits ≤ 2047 * pow2 52) {p : ℤ × ℤ × ℤ}
    (hp : place (spelled false bits) = p) :
    bits = 0 ∧ p.1 = 0 ∧ p.2.1 = 0 ∧ p.2.2 = 0 ∨ 0 < bits ∧ 0 < p.1 := by
  have hpos : 0 < 2047 * pow2 52 := by decide
  rw [place_spelled h] at hp
  subst hp
  split_ifs with htop hzero
  · exact .inr ⟨by omega, by decide⟩
  · exact .inl ⟨hzero, rfl, rfl, rfl⟩
  · exact .inr ⟨Nat.pos_of_ne_zero hzero, Int.one_pos⟩
  · exact .inr ⟨Nat.pos_of_ne_zero hzero, Int.one_pos⟩

lemma before_iff (ha : a ≤ 2047 * pow2 52) (hb : b ≤ 2047 * pow2 52) :
    Before (place (spelled s a)) (place (spelled t b)) ↔ signedBits s a < signedBits t b := by
  have hpa := place_spelled_cases ha rfl
  have hpb := place_spelled_cases hb rfl
  rcases s with _ | _ <;> rcases t with _ | _
  · simpa [signedBits] using before_spelled ha hb
  · rw [place_spelled_true b hb]
    simp only [Before, Prod.fst_neg, Prod.snd_neg, signedBits, Bool.false_eq_true, if_false,
      if_true]
    omega
  · rw [place_spelled_true a ha]
    simp only [Before, Prod.fst_neg, Prod.snd_neg, signedBits, Bool.false_eq_true, if_false,
      if_true]
    omega
  · rw [place_spelled_true a ha, place_spelled_true b hb, before_neg, before_spelled hb ha]
    simp [signedBits]

lemma signedBits_lt_iff : signedBits s a < signedBits t b ↔
    signedValue s (magnitude a) < signedValue t (magnitude b) := by
  have ha := magnitude_nonneg a
  have hb := magnitude_nonneg b
  rcases s with _ | _ <;> rcases t with _ | _
  · simpa [signedBits] using magnitude_lt_iff.symm
  · refine iff_of_false ?_ ?_
    · simp only [signedBits, Bool.false_eq_true, if_false, if_true]
      omega
    · simp only [signedValue_false, signedValue_true]
      linarith
  · -- zero has two signs, and they are equal
    have hpos : (0 < magnitude a ∨ 0 < magnitude b) ↔ -magnitude a < magnitude b := by
      refine ⟨fun h => by rcases h with h | h <;> linarith, fun h => ?_⟩
      by_contra hnot
      rw [not_or] at hnot
      linarith
    rw [signedValue_true, signedValue_false, ← hpos, magnitude_pos_iff, magnitude_pos_iff]
    simp only [signedBits, Bool.false_eq_true, if_false, if_true]
    omega
  · simpa [signedBits] using magnitude_lt_iff.symm

section

variable (hx : isFinite x = true) (hy : isFinite y = true)

include hx hy

/-- **Finite doubles compare as the numbers they stand for.** -/
lemma lt_iff_value : x < y ↔ value x < value y := by
  obtain ⟨s, a, ha, rfl⟩ := exists_of_isFinite hx
  obtain ⟨t, b, hb, rfl⟩ := exists_of_isFinite hy
  rw [lt_iff_before (isNaN_of_isFinite hx) (isNaN_of_isFinite hy), unpack_ofMagnitude ha.le,
    unpack_ofMagnitude hb.le, before_iff ha.le hb.le, signedBits_lt_iff, value_ofMagnitude ha,
    value_ofMagnitude hb]

lemma le_iff_value : x ≤ y ↔ value x ≤ value y := by
  have hnx := isNaN_of_isFinite hx
  have hny := isNaN_of_isFinite hy
  rw [← not_lt, ← lt_iff_value hy hx]
  refine ⟨fun h hlt => ?_, le_of_not_lt hny hnx⟩
  rw [le_iff_not_before hnx hny] at h
  exact h ((lt_iff_before hny hnx).1 hlt)

lemma beq_iff_value : (x == y) = true ↔ value x = value y := by
  constructor
  · intro h
    obtain ⟨hxy, hyx⟩ := not_lt_of_beq h
    rw [lt_iff_value hx hy, not_lt] at hxy
    rw [lt_iff_value hy hx, not_lt] at hyx
    exact le_antisymm hyx hxy
  · intro h
    exact beq_of_le_of_le ((le_iff_value hx hy).2 h.le) ((le_iff_value hy hx).2 h.ge)

end

/-! ### Some doubles -/

lemma zero_eq : (0.0 : Float) = ofMagnitude false 0 := by rfl

lemma one_eq : (1.0 : Float) = ofMagnitude false (1023 * pow2 52) := by decide +kernel

lemma isFinite_zero : isFinite 0.0 = true := by
  rw [zero_eq]
  exact isFinite_ofMagnitude (by decide)

lemma isFinite_one : isFinite 1.0 = true := by
  rw [one_eq]
  exact isFinite_ofMagnitude (by decide)

@[simp] lemma value_zero : value 0.0 = 0 := by
  rw [zero_eq, value_ofMagnitude (by decide), magnitude_zero, signedValue_false]

@[simp] lemma value_one : value 1.0 = 1 := by
  have hbits : 1023 * pow2 52 = 1022 * pow2 52 + 2 ^ 52 := by decide
  have hexp : ((1022 : ℕ) : ℤ) - 1074 = -52 := by decide
  rw [one_eq, value_ofMagnitude (by decide), signedValue_false, hbits,
    magnitude_add (by decide) (.inr le_rfl), hexp]
  norm_num

lemma exists_mul_least (x : Float) : ∃ k : ℤ, value x = k * magnitude 1 := by
  have hleast : magnitude 1 = 2 ^ (-1074 : ℤ) := by
    rw [magnitude, if_pos (by decide), Nat.cast_one, one_mul]
  rcases hx : isFinite x with _ | _
  · exact ⟨0, by rw [value_of_not_isFinite hx, Int.cast_zero, zero_mul]⟩
  obtain ⟨s, bits, hlt, rfl⟩ := exists_of_isFinite hx
  obtain ⟨n, m, rfl, hm, hn⟩ := exists_fraction bits
  have hmag : magnitude (n * pow2 52 + m) = ((m * 2 ^ n : ℕ) : ℤ) * 2 ^ (-1074 : ℤ) := by
    rw [magnitude_add hm.le hn, sub_eq_add_neg, zpow_add₀ two_ne_zero, zpow_natCast, ← mul_assoc,
      Int.cast_natCast, Nat.cast_mul, Nat.cast_pow, Nat.cast_ofNat]
  rw [value_ofMagnitude hlt, hmag, hleast]
  rcases s with _ | _
  · exact ⟨_, rfl⟩
  · exact ⟨-(m * 2 ^ n : ℕ), by rw [signedValue_true, Int.cast_neg, neg_mul]⟩

end Daybook.Number
