import Daybook.Proofs.Number.Value

/-!
Nearest numbers. Whole numbers, and doubles without a sign, each stand in a row that rises. To round
is to go to the nearer neighbour in the row, and from halfway between two to the one with the even
index. No other number of the row is nearer then, and neither is one below zero.
-/

namespace Daybook.Number

variable {g : ℕ → ℚ} {v w r c below above : ℚ} {k m n bits : ℕ} {num den : ℕ}

/-! ### Neighbours in a row -/

/-- Among the numbers of a row the one with this index is nearest. Where another one is as near, the
index is even. -/
structure Nearest (g : ℕ → ℚ) (v : ℚ) (n : ℕ) : Prop where
  le : ∀ m, |v - g n| ≤ |v - g m|
  even : ∀ m, m ≠ n → |v - g m| = |v - g n| → n % 2 = 0

/-- The index of the nearer one of two neighbours, by the distances from both. -/
def nearer (k : ℕ) (below above : ℚ) : ℕ :=
  if below < above then k else if above < below then k + 1 else if k % 2 = 0 then k else k + 1

lemma nearer_mul (hc : 0 < c) : nearer k (below * c) (above * c) = nearer k below above := by
  simp only [nearer, mul_lt_mul_iff_left₀ hc]

lemma nearer_add (hm : m % 2 = 0) : nearer (m + k) below above = m + nearer k below above := by
  simp only [nearer]
  split_ifs <;> omega

/-- **The nearer neighbour is nearest in the row.** -/
lemma nearest_nearer (hg : StrictMono g) (hlow : g k ≤ v) (hhigh : v < g (k + 1)) :
    Nearest g v (nearer k (v - g k) (g (k + 1) - v)) := by
  have hbelow : |v - g k| = v - g k := abs_of_nonneg (sub_nonneg.2 hlow)
  have habove : |v - g (k + 1)| = g (k + 1) - v := by
    rw [abs_sub_comm, abs_of_nonneg (sub_nonneg.2 hhigh.le)]
  -- all others lie behind one of the two
  have hothers : ∀ m, m = k ∨ m = k + 1 ∨ v - g k < |v - g m| ∨ g (k + 1) - v < |v - g m| := by
    intro m
    by_cases hk : m = k
    · exact .inl hk
    by_cases hk' : m = k + 1
    · exact .inr (.inl hk')
    refine .inr (.inr ?_)
    rcases Nat.lt_or_ge m k with hm | hm
    · exact .inl (lt_of_lt_of_le (sub_lt_sub_left (hg hm) v) (le_abs_self _))
    · rw [abs_sub_comm]
      exact .inr (lt_of_lt_of_le (sub_lt_sub_right (hg (by omega)) v) (le_abs_self _))
  have hle : |v - g (nearer k (v - g k) (g (k + 1) - v))| ≤ min (v - g k) (g (k + 1) - v) := by
    rw [nearer, le_min_iff]
    split_ifs <;> first | rw [hbelow] | rw [habove]
    all_goals constructor <;> linarith
  obtain ⟨hle, hle'⟩ := le_min_iff.1 hle
  refine ⟨fun m => ?_, fun m hm htie => ?_⟩
  · rcases hothers m with rfl | rfl | h | h
    · exact hle.trans hbelow.ge
    · exact hle'.trans habove.ge
    · exact hle.trans h.le
    · exact hle'.trans h.le
  · rcases hothers m with rfl | rfl | h | h
    · rw [nearer] at hm htie ⊢
      split_ifs at hm htie ⊢ <;> first | omega | (exfalso; linarith)
    · rw [nearer] at hm htie ⊢
      split_ifs at hm htie ⊢ <;> first | omega | (exfalso; linarith)
    · exact absurd htie (ne_of_gt (hle.trans_lt h))
    · exact absurd htie (ne_of_gt (hle'.trans_lt h))

lemma Nearest.le_neg (h : Nearest g v n) (hzero : g 0 = 0) (hv : 0 ≤ v) (hw : 0 ≤ w) :
    |v - g n| ≤ |v - -w| := by
  calc |v - g n| ≤ |v - g 0| := h.le 0
    _ = v := by rw [hzero, sub_zero, abs_of_nonneg hv]
    _ ≤ v - -w := by linarith
    _ ≤ |v - -w| := le_abs_self _

lemma Nearest.eq_zero_of_neg (h : Nearest g v n) (hzero : g 0 = 0) (hv : 0 ≤ v) (hw : 0 ≤ w)
    (htie : |v - -w| = |v - g n|) : w = 0 := by
  have hle := h.le 0
  rw [hzero, sub_zero, abs_of_nonneg hv, ← htie, abs_of_nonneg (by linarith)] at hle
  linarith

/-! ### Whole numbers -/

lemma nearestWhole_eq_nearer (r : ℚ) :
    nearestWhole r = nearer ⌊r⌋₊ (r - ⌊r⌋₊) ((⌊r⌋₊ + 1 : ℕ) - r) := by
  rw [nearestWhole, nearer]
  push_cast
  split_ifs <;> first | rfl | (exfalso; linarith)

/-- **The nearest whole number is nearest.** -/
lemma nearest_nearestWhole (hr : 0 ≤ r) : Nearest (fun n => (n : ℚ)) r (nearestWhole r) := by
  rw [nearestWhole_eq_nearer]
  refine nearest_nearer (g := fun n => (n : ℚ)) Nat.strictMono_cast (Nat.floor_le hr) ?_
  exact_mod_cast Nat.lt_floor_add_one r

/-! ### Doubles without a sign -/

lemma strictMono_magnitude : StrictMono magnitude := fun _ _ => magnitude_lt_iff.2

/-- **Rounding to a double goes to the nearer one of two neighbours.** -/
lemma exists_doubleBits_eq_nearer (hv : 0 ≤ v) : ∃ k, magnitude k ≤ v ∧ v < magnitude (k + 1) ∧
    doubleBits v = nearer k (v - magnitude k) (magnitude (k + 1) - v) := by
  rcases hv.eq_or_lt with rfl | hv
  · have hpos : 0 < magnitude 1 := magnitude_pos_iff.2 one_pos
    refine ⟨0, magnitude_zero.le, hpos, ?_⟩
    rw [doubleBits_zero, nearer, if_pos (by rw [magnitude_zero]; linarith)]
  -- the last bit that is kept makes the step from one double to the next
  have hstep : (0 : ℚ) < 2 ^ lastBit v := by positivity
  have hleast := le_lastBit v
  have hr : 0 ≤ v / 2 ^ lastBit v := by positivity
  have hfloor := Nat.floor_le hr
  have hfloor' := Nat.lt_floor_add_one (v / 2 ^ lastBit v)
  have hfits : (lastBit v + 1074).toNat = 0 ∨ 2 ^ 52 ≤ ⌊v / 2 ^ lastBit v⌋₊ := by
    rcases eq_or_ne (lastBit v) (-1074) with h | h
    · exact .inl (by omega)
    · exact .inr (Nat.le_floor (le_div_lastBit hv h))
  have hlt : ⌊v / 2 ^ lastBit v⌋₊ < 2 ^ 53 := (Nat.floor_lt hr).2 (div_lastBit_lt hv)
  have hexp : ((lastBit v + 1074).toNat : ℤ) - 1074 = lastBit v := by omega
  have hbits := doubleBits_of_pos hv
  generalize (lastBit v + 1074).toNat = e at hfits hexp hbits
  have hlow := magnitude_add hlt.le hfits
  have hhigh := magnitude_add (Nat.succ_le_of_lt hlt) (hfits.imp_right Nat.le_succ_of_le)
  rw [hexp] at hlow hhigh
  refine ⟨e * pow2 52 + ⌊v / 2 ^ lastBit v⌋₊, ?_, ?_, ?_⟩
  · rw [hlow]
    exact (le_div_iff₀ hstep).1 hfloor
  · rw [add_assoc, hhigh]
    exact_mod_cast (div_lt_iff₀ hstep).1 hfloor'
  · have heven : e * pow2 52 % 2 = 0 := by
      simp only [pow2_eq]
      omega
    have hscale : v / 2 ^ lastBit v * 2 ^ lastBit v = v := div_mul_cancel₀ _ hstep.ne'
    rw [add_assoc, hlow, hhigh, hbits, nearer_add heven, nearestWhole_eq_nearer,
      ← nearer_mul hstep, sub_mul, sub_mul, hscale]

lemma nearest_doubleBits (hv : 0 ≤ v) : Nearest magnitude v (doubleBits v) := by
  obtain ⟨k, hlow, hhigh, hbits⟩ := exists_doubleBits_eq_nearer hv
  rw [hbits]
  exact nearest_nearer strictMono_magnitude hlow hhigh

/-! ### The end of the range -/

/-- Halfway between the greatest double and the power of two that would follow it: numbers from here
on are rounded to no finite double. -/
def rangeEnd : ℚ := 2 ^ 1024 - 2 ^ 970

lemma magnitude_greatest : magnitude (2047 * pow2 52 - 1) = 2 ^ 1024 - 2 ^ 971 := by
  have hbits : 2047 * pow2 52 - 1 = 2045 * pow2 52 + (2 ^ 53 - 1) := by decide
  have hexp : ((2045 : ℕ) : ℤ) - 1074 = (971 : ℕ) := by decide
  have hpow : (2 : ℚ) ^ 1024 = 2 ^ 53 * 2 ^ 971 := by rw [← pow_add]
  rw [hbits, magnitude_add (by decide) (.inr (by decide)), hexp, zpow_natCast, hpow, ← sub_one_mul,
    Nat.cast_sub Nat.one_le_two_pow, Nat.cast_pow, Nat.cast_ofNat, Nat.cast_one]

lemma magnitude_infinity : magnitude (2047 * pow2 52) = 2 ^ 1024 := by
  have hbits : 2047 * pow2 52 = 2046 * pow2 52 + 2 ^ 52 := by decide
  have hexp : ((2046 : ℕ) : ℤ) - 1074 = (972 : ℕ) := by decide
  rw [hbits, magnitude_add (by decide) (.inr le_rfl), hexp, zpow_natCast, Nat.cast_pow,
    Nat.cast_ofNat, ← pow_add]

lemma two_mul_rangeEnd :
    2 * rangeEnd = magnitude (2047 * pow2 52 - 1) + magnitude (2047 * pow2 52) := by
  have hpow : (2 : ℚ) ^ 971 = 2 * 2 ^ 970 := pow_succ' 2 970
  rw [magnitude_greatest, magnitude_infinity, rangeEnd, hpow]
  generalize (2 : ℚ) ^ 1024 = top
  generalize (2 : ℚ) ^ 970 = step
  ring

lemma doubleBits_le_iff {top : ℕ} (hv : 0 ≤ v) (hodd : top % 2 = 1) :
    doubleBits v ≤ top ↔ 2 * v < magnitude top + magnitude (top + 1) := by
  obtain ⟨k, hlow, hhigh, hbits⟩ := exists_doubleBits_eq_nearer hv
  have hstep : magnitude top < magnitude (top + 1) := magnitude_lt_iff.2 (Nat.lt_succ_self top)
  have hk : k ≤ doubleBits v ∧ doubleBits v ≤ k + 1 := by
    rw [hbits, nearer]
    split_ifs <;> omega
  rcases Nat.lt_trichotomy k top with hlt | rfl | hgt
  · have hv' : v < magnitude top := hhigh.trans_le (magnitude_le_iff.2 hlt)
    exact iff_of_true (by omega) (by linarith)
  · rw [hbits, nearer]
    split_ifs <;>
      first
        | exact iff_of_true le_rfl (by linarith)
        | exact iff_of_false (Nat.not_succ_le_self _) (by linarith)
  · have hv' : magnitude (top + 1) ≤ v := (magnitude_le_iff.2 hgt).trans hlow
    exact iff_of_false (by omega) (by linarith)

/-- **Numbers are rounded to a finite double up to halfway behind the greatest one.** -/
lemma doubleBits_lt_iff (hv : 0 ≤ v) : doubleBits v < 2047 * pow2 52 ↔ v < rangeEnd := by
  have hsucc : 2047 * pow2 52 - 1 + 1 = 2047 * pow2 52 := by decide
  have htop : doubleBits v ≤ 2047 * pow2 52 - 1 ↔ 2 * v <
      magnitude (2047 * pow2 52 - 1) + magnitude (2047 * pow2 52 - 1 + 1) :=
    doubleBits_le_iff hv (by decide)
  rw [hsucc, ← two_mul_rangeEnd, mul_lt_mul_iff_right₀ two_pos] at htop
  rw [← htop, Nat.le_sub_one_iff_lt (by decide)]

/-! ### The nearest double -/

/-- No finite double is nearer to the number, and if another is as near, the last bit is zero. -/
structure IsNearestDouble (v : ℚ) (z : Float) : Prop where
  finite : isFinite z = true
  le : ∀ y, isFinite y = true → |v - value z| ≤ |v - value y|
  even : ∀ y, isFinite y = true → value y ≠ value z → |v - value y| = |v - value z| →
    z.toBits.toNat % 2 = 0

lemma isNearestDouble_doubleBits (hv : 0 ≤ v) (hrange : v < rangeEnd) :
    IsNearestDouble v (ofMagnitude false (doubleBits v)) := by
  have hbits := (doubleBits_lt_iff hv).2 hrange
  have hnear := nearest_doubleBits hv
  have heven : (ofMagnitude false (doubleBits v)).toBits.toNat = doubleBits v :=
    toNat_toBits_ofMagnitude hbits.le
  refine ⟨isFinite_ofMagnitude hbits, fun y hy => ?_, fun y hy hne htie => ?_⟩
  · obtain ⟨s, m, hm, rfl⟩ := exists_of_isFinite hy
    rw [value_ofMagnitude hbits, value_ofMagnitude hm, signedValue_false]
    -- a negative double is no nearer than zero
    cases s with
    | false => exact hnear.le m
    | true => exact hnear.le_neg magnitude_zero hv (magnitude_nonneg m)
  · obtain ⟨s, m, hm, rfl⟩ := exists_of_isFinite hy
    rw [value_ofMagnitude hbits, value_ofMagnitude hm, signedValue_false] at hne htie
    rw [heven]
    cases s with
    | false =>
      refine hnear.even m ?_ htie
      rintro rfl
      exact hne rfl
    | true =>
      have hzero := hnear.eq_zero_of_neg magnitude_zero hv (magnitude_nonneg m) htie
      rw [signedValue_true, hzero, neg_zero] at hne htie
      refine hnear.even 0 (fun h => hne ?_) (by rw [magnitude_zero, htie])
      rw [← h, magnitude_zero]

/-- The double nearest to a number that is not negative, if it is in range. -/
def nearestDouble? (v : ℚ) : Option Float :=
  if v < rangeEnd then some (ofMagnitude false (doubleBits v)) else none

lemma nearest?_eq (hd : 0 < den) (num : ℕ) :
    nearest? false num den = nearestDouble? (num / den) := by
  have hv : (0 : ℚ) ≤ num / den := by positivity
  rw [nearest?, nearestDouble?, nearestBits_eq hd]
  simp only [doubleBits_lt_iff hv]

end Daybook.Number
