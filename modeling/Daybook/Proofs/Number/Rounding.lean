import Mathlib.Algebra.Order.Floor.Semifield
import Mathlib.Data.Int.Log
import Mathlib.Data.Rat.Floor
import Daybook.Proofs.Number.Bits

/-!
Rounding to doubles, on exact numbers. Read as natural numbers, the bits below the sign count the
doubles from zero up. The bits of the nearest double grow with the number they are taken of, and
those of a number that is a double are its own.
-/

namespace Daybook.Number

variable {v w r : ℚ} {m n bits : ℕ} {e k : ℤ}

/-! ### Whole numbers -/

/-- The whole number nearest to a number that is not negative; a half goes to the even
neighbour. -/
def nearestWhole (r : ℚ) : ℕ :=
  if r - ⌊r⌋₊ < 1 / 2 then ⌊r⌋₊
  else if 1 / 2 < r - ⌊r⌋₊ then ⌊r⌋₊ + 1
  else if ⌊r⌋₊ % 2 = 0 then ⌊r⌋₊ else ⌊r⌋₊ + 1

lemma floor_le_nearestWhole (r : ℚ) : ⌊r⌋₊ ≤ nearestWhole r := by
  rw [nearestWhole]
  split_ifs <;> omega

lemma nearestWhole_le_succ (r : ℚ) : nearestWhole r ≤ ⌊r⌋₊ + 1 := by
  rw [nearestWhole]
  split_ifs <;> omega

lemma nearestWhole_mono (h : v ≤ w) : nearestWhole v ≤ nearestWhole w := by
  have hfloor : ⌊v⌋₊ ≤ ⌊w⌋₊ := Nat.floor_le_floor h
  rcases Nat.lt_or_ge ⌊v⌋₊ ⌊w⌋₊ with hlt | hge
  · calc nearestWhole v ≤ ⌊v⌋₊ + 1 := nearestWhole_le_succ v
      _ ≤ ⌊w⌋₊ := hlt
      _ ≤ nearestWhole w := floor_le_nearestWhole w
  · -- above one whole number the greater fraction rounds up first
    have heq : ⌊v⌋₊ = ⌊w⌋₊ := Nat.le_antisymm hfloor hge
    have hfract : v - ⌊w⌋₊ ≤ w - ⌊w⌋₊ := by linarith
    rw [nearestWhole, nearestWhole, heq]
    split_ifs <;> first | omega | linarith

@[simp] lemma nearestWhole_natCast (n : ℕ) : nearestWhole n = n := by
  simp [nearestWhole]

lemma roundHalfEven_eq {den : ℕ} (hd : 0 < den) (num : ℕ) :
    roundHalfEven num den = nearestWhole (num / den) := by
  have hpos : (0 : ℚ) < den := by exact_mod_cast hd
  have hsplit : ((num / den : ℕ) : ℚ) * den + (num % den : ℕ) = num := by
    exact_mod_cast Nat.div_add_mod' num den
  have hfract : (num : ℚ) / den - (num / den : ℕ) = (num % den : ℕ) / den := by
    rw [eq_div_iff hpos.ne', sub_mul, div_mul_cancel₀ _ hpos.ne']
    linarith
  have hlow : (num : ℚ) / den - (num / den : ℕ) < 1 / 2 ↔ 2 * (num % den) < den := by
    rw [hfract, div_lt_div_iff₀ hpos two_pos, one_mul, mul_comm]
    exact_mod_cast Iff.rfl
  have hhigh : 1 / 2 < (num : ℚ) / den - (num / den : ℕ) ↔ den < 2 * (num % den) := by
    rw [hfract, div_lt_div_iff₀ two_pos hpos, one_mul, mul_comm ((num % den : ℕ) : ℚ)]
    exact_mod_cast Iff.rfl
  simp only [roundHalfEven, nearestWhole, Nat.floor_div_eq_div, hlow, hhigh]

/-! ### The place of the first bit -/

lemma le_log_iff (hv : 0 < v) : k ≤ Int.log 2 v ↔ 2 ^ k ≤ v := by
  rw [← Int.zpow_le_iff_le_log one_lt_two hv, Nat.cast_ofNat]

lemma log_lt_iff (hv : 0 < v) : Int.log 2 v < k ↔ v < 2 ^ k := by
  rw [← Int.lt_zpow_iff_log_lt one_lt_two hv, Nat.cast_ofNat]

lemma log_eq (hlow : 2 ^ k ≤ v) (hhigh : v < 2 ^ (k + 1)) : Int.log 2 v = k := by
  have hv : 0 < v := lt_of_lt_of_le (by positivity) hlow
  have hle := (le_log_iff hv).2 hlow
  have hlt := (log_lt_iff hv).2 hhigh
  omega

lemma zpow_log_le (hv : 0 < v) : 2 ^ Int.log 2 v ≤ v := (le_log_iff hv).1 le_rfl

lemma lt_zpow_log (hv : 0 < v) : v < 2 ^ (Int.log 2 v + 1) :=
  (log_lt_iff hv).1 (Int.lt_succ _)

lemma zpow_log2_le {n : ℕ} (hn : 0 < n) : (2 : ℚ) ^ (n.log2 : ℤ) ≤ n := by
  rw [zpow_natCast]
  exact_mod_cast Nat.log2_self_le (Nat.ne_of_gt hn)

lemma log_of_floor (hm : 0 < m) (hlow : m ≤ r) (hhigh : r < m + 1) :
    Int.log 2 r = Nat.log2 m := by
  have hlt : m + 1 ≤ 2 ^ (m.log2 + 1) := Nat.lt_log2_self
  have hlt' : (m : ℚ) + 1 ≤ 2 ^ (m.log2 + 1) := by exact_mod_cast hlt
  exact log_eq ((zpow_log2_le hm).trans hlow) (by exact_mod_cast hhigh.trans_le hlt')

lemma log_mul_zpow (hr : 0 < r) (e : ℤ) : Int.log 2 (r * 2 ^ e) = Int.log 2 r + e := by
  have hpow : (0 : ℚ) < 2 ^ e := by positivity
  refine log_eq ?_ ?_
  · rw [zpow_add₀ two_ne_zero]
    exact mul_le_mul_of_nonneg_right (zpow_log_le hr) hpow.le
  · rw [add_right_comm, zpow_add₀ two_ne_zero]
    exact mul_lt_mul_of_pos_right (lt_zpow_log hr) hpow

lemma div_lt_zpow_iff {den : ℕ} (hd : 0 < den) (num : ℕ) (k : ℤ) :
    (if 0 ≤ k then num < den * pow2 k.toNat else num * pow2 (-k).toNat < den) ↔
      (num : ℚ) / den < 2 ^ k := by
  have hpos : (0 : ℚ) < den := by exact_mod_cast hd
  simp only [pow2_eq]
  split_ifs with hk
  · obtain ⟨n, rfl⟩ := Int.eq_ofNat_of_zero_le hk
    rw [div_lt_iff₀ hpos, zpow_natCast, mul_comm, Int.toNat_natCast]
    exact_mod_cast Iff.rfl
  · obtain ⟨n, hn⟩ := Int.eq_ofNat_of_zero_le (a := -k) (by omega)
    have hk' : k = -(n : ℤ) := by omega
    have hpow : (0 : ℚ) < 2 ^ n := by positivity
    rw [hn, Int.toNat_natCast, hk', zpow_neg, zpow_natCast,
      div_lt_iff₀ hpos, ← div_eq_inv_mul, lt_div_iff₀ hpow]
    exact_mod_cast Iff.rfl

lemma lt_zpow_log2 (n : ℕ) : (n : ℚ) < 2 ^ ((n.log2 : ℤ) + 1) := by
  exact_mod_cast (Nat.lt_log2_self : n < 2 ^ (n.log2 + 1))

lemma zpow_le_div {num den : ℕ} (hn : 0 < num) (hd : 0 < den) :
    (2 : ℚ) ^ ((num.log2 : ℤ) - den.log2 - 1) ≤ num / den := by
  have hpos : (0 : ℚ) < den := by exact_mod_cast hd
  rw [le_div_iff₀ hpos]
  calc (2 : ℚ) ^ ((num.log2 : ℤ) - den.log2 - 1) * den
      ≤ 2 ^ ((num.log2 : ℤ) - den.log2 - 1) * 2 ^ ((den.log2 : ℤ) + 1) :=
        mul_le_mul_of_nonneg_left (lt_zpow_log2 den).le (by positivity)
    _ = 2 ^ (num.log2 : ℤ) := by
      rw [← zpow_add₀ two_ne_zero]
      congr 1
      omega
    _ ≤ num := zpow_log2_le hn

lemma div_lt_zpow {den : ℕ} (hd : 0 < den) (num : ℕ) :
    (num : ℚ) / den < 2 ^ ((num.log2 : ℤ) - den.log2 + 1) := by
  have hpos : (0 : ℚ) < den := by exact_mod_cast hd
  rw [div_lt_iff₀ hpos]
  calc (num : ℚ) < 2 ^ ((num.log2 : ℤ) + 1) := lt_zpow_log2 num
    _ = 2 ^ ((num.log2 : ℤ) - den.log2 + 1) * 2 ^ (den.log2 : ℤ) := by
      rw [← zpow_add₀ two_ne_zero]
      congr 1
      omega
    _ ≤ 2 ^ ((num.log2 : ℤ) - den.log2 + 1) * den :=
      mul_le_mul_of_nonneg_left (zpow_log2_le hd) (by positivity)

lemma floorLog2_eq {num den : ℕ} (hn : 0 < num) (hd : 0 < den) :
    floorLog2 num den = Int.log 2 ((num : ℚ) / den) := by
  simp only [floorLog2, div_lt_zpow_iff hd]
  split_ifs with hbelow
  · exact (log_eq (zpow_le_div hn hd) (by rwa [sub_add_cancel])).symm
  · exact (log_eq (not_lt.1 hbelow) (div_lt_zpow hd num)).symm

lemma scale2_eq (num : ℕ) {den : ℕ} (hd : 0 < den) (k : ℤ) : 0 < (scale2 num den k).2 ∧
    ((scale2 num den k).1 : ℚ) / (scale2 num den k).2 = num / den * 2 ^ k := by
  simp only [scale2, pow2_eq]
  split_ifs with hk
  · obtain ⟨n, rfl⟩ := Int.eq_ofNat_of_zero_le hk
    refine ⟨hd, ?_⟩
    rw [Int.toNat_natCast, zpow_natCast]
    push_cast
    ring
  · obtain ⟨n, hn⟩ := Int.eq_ofNat_of_zero_le (a := -k) (by omega)
    have hk' : k = -(n : ℤ) := by omega
    refine ⟨Nat.mul_pos hd (Nat.two_pow_pos _), ?_⟩
    rw [hn, Int.toNat_natCast, hk', zpow_neg, zpow_natCast]
    push_cast
    rw [div_mul_eq_div_div, div_eq_mul_inv ((num : ℚ) / den)]

/-! ### The bits of the nearest double -/

/-- The exponent of the last bit that a double keeps of a number. -/
def lastBit (v : ℚ) : ℤ := max (-1074) (Int.log 2 v - 52)

lemma lastBit_eq (v : ℚ) : lastBit v = max (-1074) (Int.log 2 v - 52) := rfl

/-- The bits below the sign of the double nearest to a number that is not negative, as if there
were no greatest double. -/
def doubleBits (v : ℚ) : ℕ :=
  if v = 0 then 0 else (lastBit v + 1074).toNat * pow2 52 + nearestWhole (v / 2 ^ lastBit v)

@[simp] lemma doubleBits_zero : doubleBits 0 = 0 := if_pos rfl

lemma doubleBits_of_pos (hv : 0 < v) :
    doubleBits v = (lastBit v + 1074).toNat * pow2 52 + nearestWhole (v / 2 ^ lastBit v) :=
  if_neg hv.ne'

/-- **The bits of a quotient are those of its value**, whatever it is the quotient of. -/
lemma nearestBits_eq {den : ℕ} (hd : 0 < den) (num : ℕ) :
    nearestBits num den = doubleBits (num / den) := by
  rcases Nat.eq_zero_or_pos num with rfl | hn
  · simp [nearestBits]
  have hpos : (0 : ℚ) < num / den := by positivity
  obtain ⟨hden, hscale⟩ := scale2_eq num hd (-lastBit ((num : ℚ) / den))
  rw [nearestBits, if_neg (Nat.ne_of_gt hn), floorLog2_eq hn hd, doubleBits_of_pos hpos]
  simp only [← lastBit_eq]
  rw [roundHalfEven_eq hden, hscale, zpow_neg, div_eq_mul_inv ((num : ℚ) / den)]

lemma le_lastBit (v : ℚ) : -1074 ≤ lastBit v := le_max_left _ _

lemma le_div_lastBit (hv : 0 < v) (h : lastBit v ≠ -1074) :
    ((2 ^ 52 : ℕ) : ℚ) ≤ v / 2 ^ lastBit v := by
  have hlast : lastBit v = Int.log 2 v - 52 := by
    have hmax := lastBit_eq v
    omega
  rw [le_div_iff₀ (by positivity)]
  calc ((2 ^ 52 : ℕ) : ℚ) * 2 ^ lastBit v = 2 ^ (52 + lastBit v) := by
        rw [zpow_add₀ two_ne_zero]
        norm_num
    _ = 2 ^ Int.log 2 v := by rw [hlast, add_sub_cancel]
    _ ≤ v := zpow_log_le hv

lemma div_lastBit_lt (hv : 0 < v) : v / 2 ^ lastBit v < (2 ^ 53 : ℕ) := by
  have hlast : Int.log 2 v + 1 ≤ 53 + lastBit v := by
    have hmax := lastBit_eq v
    omega
  rw [div_lt_iff₀ (by positivity)]
  calc v < 2 ^ (Int.log 2 v + 1) := lt_zpow_log hv
    _ ≤ 2 ^ (53 + lastBit v) := zpow_le_zpow_right₀ one_le_two hlast
    _ = ((2 ^ 53 : ℕ) : ℚ) * 2 ^ lastBit v := by
      rw [zpow_add₀ two_ne_zero]
      norm_num

lemma fraction_le (hv : 0 < v) : nearestWhole (v / 2 ^ lastBit v) ≤ 2 ^ 53 := by
  rw [← nearestWhole_natCast (2 ^ 53)]
  exact nearestWhole_mono (div_lastBit_lt hv).le

lemma le_fraction (hv : 0 < v) (h : lastBit v ≠ -1074) :
    2 ^ 52 ≤ nearestWhole (v / 2 ^ lastBit v) := by
  rw [← nearestWhole_natCast (2 ^ 52)]
  exact nearestWhole_mono (le_div_lastBit hv h)

lemma fraction_fits (hv : 0 < v) :
    (lastBit v + 1074).toNat = 0 ∨ 2 ^ 52 ≤ nearestWhole (v / 2 ^ lastBit v) := by
  rcases eq_or_ne (lastBit v) (-1074) with h | h
  · exact .inl (by omega)
  · exact .inr (le_fraction hv h)

/-- **Rounding keeps the order.** -/
lemma doubleBits_mono (hv : 0 ≤ v) (h : v ≤ w) : doubleBits v ≤ doubleBits w := by
  rcases hv.eq_or_lt with rfl | hv
  · rw [doubleBits_zero]
    exact Nat.zero_le _
  have hw : 0 < w := hv.trans_le h
  have hlog : Int.log 2 v ≤ Int.log 2 w := Int.log_mono_right hv h
  have hlast : lastBit v ≤ lastBit w := by
    simp only [lastBit]
    omega
  have hleast := le_lastBit v
  rw [doubleBits_of_pos hv, doubleBits_of_pos hw]
  rcases hlast.eq_or_lt with heq | hlt
  · rw [heq]
    refine Nat.add_le_add_left (nearestWhole_mono ?_) _
    exact div_le_div_of_nonneg_right h (by positivity)
  · -- a carry does not reach the first number that begins further up
    have hcarry := fraction_le hv
    have hfirst := le_fraction hw (by omega)
    simp only [pow2_eq]
    omega

/-! ### The number behind some bits -/

/-- The number that the bits below the sign stand for, as if there were no greatest double. -/
def magnitude (bits : ℕ) : ℚ :=
  if bits < pow2 52 then bits * 2 ^ (-1074 : ℤ)
  else (pow2 52 + bits % pow2 52 : ℕ) * 2 ^ ((bits / pow2 52 : ℕ) - 1075 : ℤ)

lemma magnitude_add (hm : m ≤ 2 ^ 53) (hn : n = 0 ∨ 2 ^ 52 ≤ m) :
    magnitude (n * pow2 52 + m) = m * 2 ^ ((n : ℤ) - 1074) := by
  rw [magnitude]
  split_ifs with hlow
  · simp only [pow2_eq] at hlow
    obtain rfl : n = 0 := by omega
    rw [Nat.zero_mul, Nat.zero_add]
    rfl
  · simp only [pow2_eq] at hlow ⊢
    rcases hm.eq_or_lt with rfl | hlt
    · have hmod : (n * 2 ^ 52 + 2 ^ 53) % 2 ^ 52 = 0 := by omega
      have hdiv : (n * 2 ^ 52 + 2 ^ 53) / 2 ^ 52 = n + 2 := by omega
      have hexp : ((n + 2 : ℕ) : ℤ) - 1075 = 1 + ((n : ℤ) - 1074) := by omega
      rw [hmod, hdiv, hexp, zpow_add₀ two_ne_zero, zpow_one, ← mul_assoc]
      norm_num
    · have hmod : 2 ^ 52 + (n * 2 ^ 52 + m) % 2 ^ 52 = m := by omega
      have hdiv : (n * 2 ^ 52 + m) / 2 ^ 52 = n + 1 := by omega
      have hexp : ((n + 1 : ℕ) : ℤ) - 1075 = (n : ℤ) - 1074 := by omega
      rw [hmod, hdiv, hexp]

lemma exists_fraction (bits : ℕ) :
    ∃ n m, bits = n * pow2 52 + m ∧ m < 2 ^ 53 ∧ (n = 0 ∨ 2 ^ 52 ≤ m) := by
  simp only [pow2_eq]
  rcases Nat.lt_or_ge bits (2 ^ 52) with hlow | hhigh
  · exact ⟨0, bits, by omega, by omega, .inl rfl⟩
  · exact ⟨bits / 2 ^ 52 - 1, 2 ^ 52 + bits % 2 ^ 52, by omega, by omega, .inr (by omega)⟩

lemma magnitude_doubleBits (hv : 0 < v) :
    magnitude (doubleBits v) = nearestWhole (v / 2 ^ lastBit v) * 2 ^ lastBit v := by
  have hleast := le_lastBit v
  rw [doubleBits_of_pos hv, magnitude_add (fraction_le hv) (fraction_fits hv)]
  congr 2
  omega

lemma lastBit_mul_zpow (hm : 0 < m) (hlt : m < 2 ^ 53) (hn : n = 0 ∨ 2 ^ 52 ≤ m) :
    lastBit (m * 2 ^ ((n : ℤ) - 1074)) = n - 1074 := by
  have hpos : (0 : ℚ) < m := by exact_mod_cast hm
  have hlog : Int.log 2 (m : ℚ) = m.log2 := log_of_floor hm le_rfl (by linarith)
  have hhigh : m.log2 < 53 := (Nat.log2_lt (Nat.ne_of_gt hm)).2 hlt
  rw [lastBit, log_mul_zpow hpos, hlog]
  rcases hn with rfl | hn
  · omega
  · have hlow : 52 ≤ m.log2 := (Nat.le_log2 (Nat.ne_of_gt hm)).2 hn
    omega

/-- **A double is not changed by rounding.** -/
@[simp] lemma doubleBits_magnitude (bits : ℕ) : doubleBits (magnitude bits) = bits := by
  obtain ⟨n, m, rfl, hlt, hn⟩ := exists_fraction bits
  rw [magnitude_add hlt.le hn]
  rcases Nat.eq_zero_or_pos m with rfl | hm
  · obtain rfl : n = 0 := by omega
    simp
  have hpow : (0 : ℚ) < 2 ^ ((n : ℤ) - 1074) := by positivity
  have hv : (0 : ℚ) < m * 2 ^ ((n : ℤ) - 1074) := by positivity
  rw [doubleBits_of_pos hv, lastBit_mul_zpow hm hlt hn, mul_div_cancel_right₀ _ hpow.ne',
    nearestWhole_natCast]
  congr 2
  omega

@[simp] lemma magnitude_zero : magnitude 0 = 0 := by
  simp [magnitude, pow2_eq]

lemma magnitude_nonneg (bits : ℕ) : 0 ≤ magnitude bits := by
  rw [magnitude]
  split_ifs <;> positivity

lemma magnitude_le_iff : magnitude m ≤ magnitude n ↔ m ≤ n := by
  have hle : ∀ {a b}, magnitude a ≤ magnitude b → a ≤ b := fun {a b} h => by
    simpa using doubleBits_mono (magnitude_nonneg a) h
  refine ⟨hle, fun h => ?_⟩
  rcases le_total (magnitude m) (magnitude n) with hmn | hnm
  · exact hmn
  · rw [Nat.le_antisymm h (hle hnm)]

lemma magnitude_lt_iff : magnitude m < magnitude n ↔ m < n := by
  rw [← not_le, magnitude_le_iff, Nat.not_le]

lemma magnitude_pos_iff : 0 < magnitude bits ↔ 0 < bits := by
  rw [← magnitude_zero, magnitude_lt_iff]

end Daybook.Number
