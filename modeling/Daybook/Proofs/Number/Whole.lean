import Daybook.Proofs.Number.Counts
import Daybook.Proofs.Number.Value

/-!
Whole numbers that go through a double. A double whose magnitude is whole is read as this whole
number, rounded or not; so up to the first power of two that needs more than the `53` places of a
fraction a whole number comes back as it was, and what has come back once does so again.
-/

namespace Daybook.Number

variable {x : Float} {negative : Bool} {bits m : ℕ} {e n : ℤ} {k : ℕ}

/-! ### Reading a double as a whole number -/

lemma mant_lt_of_parts (h : parts x = .finite negative m e) : m < pow2 53 := by
  have hmod : x.toBits.toNat % pow2 52 < pow2 52 := Nat.mod_lt _ (by decide)
  have htwice : pow2 53 = pow2 52 + pow2 52 := by decide
  simp only [parts] at h
  split_ifs at h <;> cases h <;> omega

lemma truncate_eq (h : (m : ℚ) * 2 ^ e = k) :
    truncate m e = k ∧ roundWhole m e = k ∧ (0 ≤ e ∨ m % pow2 (-e).toNat = 0) := by
  by_cases he : 0 ≤ e
  · obtain ⟨i, rfl⟩ := Int.eq_ofNat_of_zero_le he
    have hk : m * pow2 i = k := by
      rw [pow2_eq]
      exact_mod_cast h
    rw [truncate, roundWhole, if_pos he, if_pos he]
    exact ⟨hk, hk, .inl he⟩
  · obtain ⟨i, hi⟩ := Int.eq_ofNat_of_zero_le (a := -e) (by omega)
    have hpos : 0 < pow2 i := Nat.two_pow_pos i
    -- nothing is lost when the bits behind the point are dropped
    have hm : m = k * pow2 i := by
      have hpow : (0 : ℚ) < 2 ^ i := by positivity
      have he' : e = -(i : ℤ) := by omega
      rw [he', zpow_neg, zpow_natCast, mul_inv_eq_iff_eq_mul₀ hpow.ne'] at h
      rw [pow2_eq]
      exact_mod_cast h
    have hround : roundHalfEven (k * pow2 i) (pow2 i) = k := by
      rw [roundHalfEven_eq hpos, Nat.cast_mul, mul_div_cancel_right₀ _ (Nat.cast_ne_zero.2 hpos.ne'),
        nearestWhole_natCast]
    have hexp : (-e).toNat = i := by omega
    rw [truncate, roundWhole, if_neg he, if_neg he, hexp, hm, Nat.mul_div_cancel _ hpos, hround]
    exact ⟨rfl, rfl, .inr (Nat.mul_mod_left k _)⟩

/-- **A double with a whole magnitude is read as it.** -/
lemma whole?_ofMagnitude (hbits : bits < 2047 * pow2 52) (h : magnitude bits = k) :
    whole? (ofMagnitude negative bits) = some (withSign negative k) ∧
      round? (ofMagnitude negative bits) = some (withSign negative k) := by
  obtain ⟨m, e, hparts, hmag⟩ := parts_ofMagnitude (s := negative) hbits
  obtain ⟨htruncate, hround, hwhole⟩ := truncate_eq (hmag.symm.trans h)
  rw [whole?, round?, hparts]
  simp only [hwhole, if_true, htruncate, hround, and_self]

/-! ### From a whole number to its double -/

lemma withSign_natAbs (n : ℤ) : withSign (decide (n < 0)) n.natAbs = n := by
  rw [withSign]
  by_cases hn : n < 0
  · rw [if_pos (decide_eq_true hn)]
    omega
  · rw [if_neg (by simpa using hn)]
    omega

lemma natAbs_withSign (negative : Bool) (k : ℕ) : (withSign negative k).natAbs = k := by
  cases negative
  · exact Int.natAbs_natCast k
  · exact (Int.natAbs_neg _).trans (Int.natAbs_natCast k)

/-- The sizes of the whole numbers that a double can be: those that are the magnitude of their nearest
double. -/
def Exact (k : ℕ) : Prop :=
  nearestBits k 1 < 2047 * pow2 52 ∧ magnitude (nearestBits k 1) = k

lemma exact_of_le (hk : k ≤ pow2 53) : Exact k := by
  have htop : nearestBits (pow2 53) 1 < 2047 * pow2 52 := by decide +kernel
  exact ⟨Nat.lt_of_le_of_lt (nearestBits_mono hk) htop, magnitude_nearestBits hk⟩

lemma exact_of_magnitude (hbits : bits < 2047 * pow2 52) (h : magnitude bits = k) : Exact k := by
  have hnearest : nearestBits k 1 = bits := by rw [nearestBits_one, ← h, doubleBits_magnitude]
  rw [Exact, hnearest]
  exact ⟨hbits, h⟩

lemma roundHalfEven_le {d : ℕ} (hd : 0 < d) : roundHalfEven m d ≤ m := by
  have hone : (1 : ℚ) ≤ d := Nat.one_le_cast.2 hd
  calc roundHalfEven m d = nearestWhole (m / d) := roundHalfEven_eq hd m
    _ ≤ nearestWhole m := nearestWhole_mono (div_le_self (Nat.cast_nonneg m) hone)
    _ = m := nearestWhole_natCast m

/-- What a double is rounded to is exact. A double without a fraction has it as its magnitude, and
where there is something to round it is small. -/
lemma exact_of_round? (h : round? x = some n) : Exact n.natAbs := by
  have hfinite : isFinite x = true := by
    rw [round?] at h
    rw [isFinite]
    split at h
    · rfl
    · cases h
  obtain ⟨s, bits, hbits, rfl⟩ := exists_of_isFinite hfinite
  obtain ⟨m, e, hparts, hmag⟩ := parts_ofMagnitude (s := s) hbits
  rw [round?, hparts, Option.some_inj] at h
  rw [← h, natAbs_withSign, roundWhole]
  by_cases he : 0 ≤ e
  · obtain ⟨i, rfl⟩ := Int.eq_ofNat_of_zero_le he
    refine exact_of_magnitude hbits ?_
    rw [hmag, if_pos he, Int.toNat_natCast, zpow_natCast, pow2_eq, Nat.cast_mul, Nat.cast_pow,
      Nat.cast_ofNat]
  · rw [if_neg he]
    have hlt := mant_lt_of_parts hparts
    exact exact_of_le ((roundHalfEven_le (Nat.two_pow_pos _)).trans hlt.le)

lemma ofInt?_of_exact (h : Exact n.natAbs) :
    ofInt? n = some (ofMagnitude (decide (n < 0)) (nearestBits n.natAbs 1)) := by
  rw [ofInt?, nearest?, if_pos h.1]

/-- **A whole number up to `2 ^ 53` comes back from its double.** -/
lemma round?_ofInt? (hn : n.natAbs ≤ pow2 53) :
    ∃ x, ofInt? n = some x ∧ round? x = some n := by
  have hexact := exact_of_le hn
  refine ⟨_, ofInt?_of_exact hexact, ?_⟩
  rw [(whole?_ofMagnitude hexact.1 hexact.2).2, withSign_natAbs]

/-- **What a double has been rounded to is named by its size behind its sign.** -/
lemma whole?_of_round? (h : round? x = some n) : ∃ y, ofInt? n.natAbs = some y ∧
    whole? (if decide (n < 0) then -y else y) = some n := by
  obtain ⟨hbits, hmag⟩ := exact_of_round? h
  have hlt : nearestBits n.natAbs 1 < pow2 63 := Nat.lt_trans hbits (by decide)
  have hsigned : (if decide (n < 0) then -ofMagnitude false (nearestBits n.natAbs 1)
      else ofMagnitude false (nearestBits n.natAbs 1)) =
      ofMagnitude (decide (n < 0)) (nearestBits n.natAbs 1) := by
    cases decide (n < 0) with
    | false => rfl
    | true => exact neg_ofMagnitude hlt
  have hsign : decide ((n.natAbs : ℤ) < 0) = false := decide_eq_false (by omega)
  refine ⟨ofMagnitude false (nearestBits n.natAbs 1), ?_, ?_⟩
  · rw [ofInt?, Int.natAbs_natCast, hsign, nearest?, if_pos hbits]
  · rw [hsigned, (whole?_ofMagnitude hbits hmag).1, withSign_natAbs]

end Daybook.Number
