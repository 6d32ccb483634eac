import Mathlib
import Daybook.Number.Binary
import Daybook.Proofs.Number.Order

/-!
Doubles by their bits. A double made of a sign and the bits below it stands for what these bits
spell; a minus sign changes the sign and nothing else, so it makes no difference whether a decimal
is read behind its sign or negated afterwards. Doubles without a sign stand in the order of their
bits.
-/

namespace Daybook.Number

open Float.Model (UnpackedFloat Format)
open Float.Model.UnpackedFloat

lemma pow2_eq (k : ℕ) : pow2 k = 2 ^ k := rfl

def signOf (negative : Bool) : UnpackedFloat.Sign := if negative then .negative else .positive

/-- What a sign and the bits below it stand for. -/
def spelled (negative : Bool) (bits : ℕ) : UnpackedFloat :=
  if bits / pow2 52 = 2047 then
    if bits % pow2 52 = 0 then .infinity (signOf negative) else .notANumber
  else if bits / pow2 52 = 0 then
    if h : bits % pow2 52 = 0 then .zero (signOf negative)
    else .finite (signOf negative) (bits % pow2 52) (-1074) (Nat.pos_of_ne_zero h)
  else .finite (signOf negative) (pow2 52 + bits % pow2 52) ((bits / pow2 52 : ℕ) - 1075)
    (Nat.lt_of_lt_of_le (by decide) (Nat.le_add_right (pow2 52) _))

def wordOf (negative : Bool) (bits : ℕ) : BitVec 64 :=
  BitVec.ofNat 64 (if negative then pow2 63 + bits else bits)

variable {negative : Bool} {bits a b : ℕ} {x y : Float}

/-! ### From the word to what it spells -/

lemma toNat_wordOf (h : bits < pow2 63) :
    (wordOf negative bits).toNat = (if negative then pow2 63 + bits else bits) := by
  rw [pow2_eq] at h
  rw [wordOf, BitVec.toNat_ofNat, Nat.mod_eq_of_lt]
  cases negative <;> simp [pow2_eq] <;> omega

lemma toNat_unpackExponent (h : bits < pow2 63) :
    (@unpackExponent .binary64 (wordOf negative bits)).toNat = bits / pow2 52 := by
  have hshift : (@unpackExponent .binary64 (wordOf negative bits)).toNat =
      (wordOf negative bits).toNat / 2 ^ 52 % 2 ^ 11 := by
    simp [unpackExponent, Nat.shiftRight_eq_div_pow]
  rw [hshift, toNat_wordOf h]
  simp only [pow2_eq] at h ⊢
  cases negative
  · simp only [Bool.false_eq_true, if_false]
    omega
  · simp only [if_true]
    omega

lemma toNat_unpackMantissa (h : bits < pow2 63) :
    (@unpackMantissa .binary64 (wordOf negative bits)).toNat = bits % pow2 52 := by
  have hlow : (@unpackMantissa .binary64 (wordOf negative bits)).toNat =
      (wordOf negative bits).toNat % 2 ^ 52 := by
    simp [unpackMantissa]
  rw [hlow, toNat_wordOf h]
  simp only [pow2_eq] at h ⊢
  cases negative
  · simp only [Bool.false_eq_true, if_false]
  · simp only [if_true]
    omega

lemma ofBitVec_unpackSign (h : bits < pow2 63) :
    Sign.ofBitVec (@unpackSign .binary64 (wordOf negative bits)) = signOf negative := by
  have hhigh : (@unpackSign .binary64 (wordOf negative bits)).toNat =
      (wordOf negative bits).toNat / 2 ^ 63 % 2 := by
    simp [unpackSign, Nat.shiftRight_eq_div_pow]
  rw [toNat_wordOf h] at hhigh
  simp only [pow2_eq] at h hhigh
  cases negative
  · have hzero : @unpackSign .binary64 (wordOf false bits) = 0#1 := by
      refine BitVec.eq_of_toNat_eq ?_
      rw [hhigh]
      simp
      omega
    rw [hzero]
    rfl
  · have hone : @unpackSign .binary64 (wordOf true bits) = 1#1 := by
      refine BitVec.eq_of_toNat_eq ?_
      rw [hhigh]
      simp
      omega
    rw [hone]
    rfl

lemma toNat_append_mantissa (m : BitVec 52) : (1#1 ++ m).toNat = pow2 52 + m.toNat := by
  rw [BitVec.toNat_append, ← Nat.shiftLeft_add_eq_or_of_lt m.isLt]
  rfl

lemma unpackExponent_eq_top (h : bits < pow2 63) :
    @unpackExponent .binary64 (wordOf negative bits) = -1#11 ↔ bits / pow2 52 = 2047 := by
  rw [← @toNat_unpackExponent negative bits h, ← BitVec.toNat_inj]
  rfl

lemma unpackExponent_eq_zero (h : bits < pow2 63) :
    @unpackExponent .binary64 (wordOf negative bits) = 0#11 ↔ bits / pow2 52 = 0 := by
  rw [← @toNat_unpackExponent negative bits h, ← BitVec.toNat_inj]
  rfl

lemma unpackMantissa_eq_zero (h : bits < pow2 63) :
    @unpackMantissa .binary64 (wordOf negative bits) = 0#52 ↔ bits % pow2 52 = 0 := by
  rw [← @toNat_unpackMantissa negative bits h, ← BitVec.toNat_inj]
  rfl

lemma unpack_wordOf (h : bits < pow2 63) :
    UnpackedFloat.unpack .binary64 (wordOf negative bits) = spelled negative bits := by
  have hexp := @toNat_unpackExponent negative bits h
  have hmant := @toNat_unpackMantissa negative bits h
  have htop := @unpackExponent_eq_top negative bits h
  have hbottom := @unpackExponent_eq_zero negative bits h
  have hzero := @unpackMantissa_eq_zero negative bits h
  have hbias : ((Format.binary64.exponentBias : ℕ) : Int) + (52 : ℕ) = 1075 := rfl
  rw [UnpackedFloat.unpack, spelled]
  simp only [htop, hbottom, hzero, ofBitVec_unpackSign h]
  split
  · rfl
  · split
    · split
      · rfl
      · -- below the least normal number the exponent stays at the lowest
        have hleast : ((@unpackExponent .binary64 (wordOf negative bits)).toNat : Int) -
            (Format.binary64.exponentBias + (52 : ℕ)) + 1 = -1074 := by
          rw [hexp, hbias]
          omega
        simp only [hmant, hleast]
    · simp only [toNat_append_mantissa, hmant, hexp, hbias]

lemma mod_eq_zero_of_top (h : bits ≤ 2047 * pow2 52) (htop : bits / pow2 52 = 2047) :
    bits % pow2 52 = 0 := by
  simp only [pow2_eq] at *
  omega

lemma isNaNBits_wordOf_iff (h : bits < pow2 63) :
    @isNaNBits .binary64 (wordOf negative bits) = true ↔
      bits / pow2 52 = 2047 ∧ bits % pow2 52 ≠ 0 := by
  rw [isNaNBits, decide_eq_true_iff, unpackExponent_eq_top h, ne_eq, unpackMantissa_eq_zero h]

lemma isNaNBits_wordOf (h : bits ≤ 2047 * pow2 52) :
    @isNaNBits .binary64 (wordOf negative bits) = false := by
  have hlt : bits < pow2 63 := Nat.lt_of_le_of_lt h (by decide)
  rw [Bool.eq_false_iff, ne_eq, isNaNBits_wordOf_iff hlt]
  rintro ⟨htop, hmant⟩
  exact hmant (mod_eq_zero_of_top h htop)

/-- **A double made of bits stands for what the bits spell.** -/
lemma unpack_ofMagnitude_of_lt (h : bits < pow2 63) :
    (ofMagnitude negative bits).toModel.unpack = spelled negative bits := by
  have hmodel : (ofMagnitude negative bits).toModel.unpack = UnpackedFloat.unpack .binary64
      (UnpackedFloat.pack .binary64
        (UnpackedFloat.unpack .binary64 (wordOf negative bits))) := rfl
  rw [hmodel, pack_unpack]
  split_ifs with hnan
  · -- all words for what is not a number are packed into one
    obtain ⟨htop, hmant⟩ := (isNaNBits_wordOf_iff h).1 hnan
    rw [spelled, if_pos htop, if_neg hmant]
    rfl
  · exact unpack_wordOf h

lemma unpack_ofMagnitude (h : bits ≤ 2047 * pow2 52) :
    (ofMagnitude negative bits).toModel.unpack = spelled negative bits :=
  unpack_ofMagnitude_of_lt (Nat.lt_of_le_of_lt h (by decide))

lemma ofMagnitude_toBits (x : Float) :
    ofMagnitude (decide (pow2 63 ≤ x.toBits.toNat)) (x.toBits.toNat % pow2 63) = x := by
  have hlt : x.toBits.toNat < 2 ^ 64 := x.toBits.toNat_lt
  have hbits : (if decide (pow2 63 ≤ x.toBits.toNat) then pow2 63 + x.toBits.toNat % pow2 63
      else x.toBits.toNat % pow2 63) = x.toBits.toNat := by
    by_cases hsign : pow2 63 ≤ x.toBits.toNat <;>
      simp only [hsign, decide_true, decide_false, Bool.false_eq_true, if_true, if_false] <;>
      simp only [pow2_eq] at * <;> omega
  rw [ofMagnitude, hbits, UInt64.ofNat_toNat, Float.ofBits_toBits]

lemma exists_ofMagnitude (x : Float) :
    ∃ negative bits, bits < pow2 63 ∧ x = ofMagnitude negative bits :=
  ⟨_, _, Nat.mod_lt _ (by decide), (ofMagnitude_toBits x).symm⟩

/-! ### The sign -/

lemma neg_spelled (negative : Bool) (bits : ℕ) :
    (spelled negative bits).neg = spelled (!negative) bits := by
  cases negative <;> unfold spelled <;> split_ifs <;> rfl

lemma neg_ofMagnitude (h : bits < pow2 63) :
    -ofMagnitude negative bits = ofMagnitude (!negative) bits := by
  have hneg : (-ofMagnitude negative bits).toModel =
      Float.Model.pack (ofMagnitude negative bits).toModel.unpack.neg := rfl
  have hmade : (ofMagnitude (!negative) bits).toModel =
      Float.Model.pack (UnpackedFloat.unpack .binary64 (wordOf (!negative) bits)) := rfl
  have hmodel : (-ofMagnitude negative bits).toModel = (ofMagnitude (!negative) bits).toModel := by
    rw [hneg, hmade, unpack_ofMagnitude_of_lt h, neg_spelled, unpack_wordOf h]
  exact congrArg Float.ofModel hmodel

lemma unpack_neg (x : Float) : (-x).toModel.unpack = x.toModel.unpack.neg := by
  obtain ⟨negative, bits, hlt, rfl⟩ := exists_ofMagnitude x
  rw [neg_ofMagnitude hlt, unpack_ofMagnitude_of_lt hlt, unpack_ofMagnitude_of_lt hlt, neg_spelled]

lemma neg_neg_eq (x : Float) : - -x = x := by
  obtain ⟨negative, bits, hlt, rfl⟩ := exists_ofMagnitude x
  rw [neg_ofMagnitude hlt, neg_ofMagnitude hlt, Bool.not_not]

lemma isNaN_eq (x : Float) : x.isNaN = x.toModel.unpack.isNaN := rfl

lemma isNaN_neg (x : Float) : (-x).isNaN = x.isNaN := by
  rw [isNaN_eq, isNaN_eq, unpack_neg]
  cases x.toModel.unpack <;> rfl

lemma getD_nearest? (negative : Bool) (num den : ℕ) :
    (nearest? negative num den).getD (infinity negative) =
      ofMagnitude negative (min (nearestBits num den) (2047 * pow2 52)) := by
  rw [nearest?]
  split_ifs with h
  · rw [Nat.min_eq_left (Nat.le_of_lt h)]
    rfl
  · rw [Nat.min_eq_right (Nat.not_lt.1 h)]
    rfl

lemma exists_ofDecimal (m : ℕ) (e : Int) :
    ∃ bits ≤ 2047 * pow2 52, ∀ negative, ofDecimal negative m e = ofMagnitude negative bits := by
  by_cases hzero : m = 0
  · exact ⟨0, Nat.zero_le _, fun _ => if_pos hzero⟩
  by_cases hlarge : 400 < (Nat.log2 m : Int) * 3 / 10 + e
  · refine ⟨2047 * pow2 52, Nat.le_refl _, fun negative => ?_⟩
    rw [ofDecimal, if_neg hzero, if_pos hlarge, infinity]
  by_cases hsmall : (Nat.log2 m : Int) / 2 + 1 + e < -400
  · refine ⟨0, Nat.zero_le _, fun negative => ?_⟩
    rw [ofDecimal, if_neg hzero, if_neg hlarge, if_pos hsmall, zero]
  by_cases he : 0 ≤ e
  · refine ⟨_, Nat.min_le_right (nearestBits (m * pow10 e.toNat) 1) _, fun negative => ?_⟩
    rw [ofDecimal, if_neg hzero, if_neg hlarge, if_neg hsmall, if_pos he, getD_nearest?]
  · refine ⟨_, Nat.min_le_right (nearestBits m (pow10 (-e).toNat)) _, fun negative => ?_⟩
    rw [ofDecimal, if_neg hzero, if_neg hlarge, if_neg hsmall, if_neg he, getD_nearest?]

/-- **A decimal may be read behind its sign or be negated afterwards.** -/
lemma neg_ofDecimal (m : ℕ) (e : Int) : -ofDecimal false m e = ofDecimal true m e := by
  obtain ⟨bits, hle, hbits⟩ := exists_ofDecimal m e
  rw [hbits, hbits, neg_ofMagnitude (Nat.lt_of_le_of_lt hle (by decide)), Bool.not_false]

/-! ### The order -/

lemma isNaN_ofMagnitude (h : bits ≤ 2047 * pow2 52) :
    (ofMagnitude negative bits).isNaN = false := by
  rw [isNaN_eq, unpack_ofMagnitude h, spelled]
  split
  · rename_i htop
    rw [if_pos (mod_eq_zero_of_top h htop)]
    rfl
  · split
    · split <;> rfl
    · rfl

lemma place_spelled (h : bits ≤ 2047 * pow2 52) : place (spelled false bits) =
    if bits = 2047 * pow2 52 then ((2, 0, 0) : Int × Int × Int)
    else if bits = 0 then (0, 0, 0)
    else if bits < pow2 52 then (1, -1074, bits)
    else (1, ((bits / pow2 52 : ℕ) : Int) - 1075, ((pow2 52 + bits % pow2 52 : ℕ) : Int)) := by
  have hsplit := Nat.div_add_mod' bits (pow2 52)
  have hmod : bits % pow2 52 < pow2 52 := Nat.mod_lt _ (by decide)
  have hpos : 0 < pow2 52 := by decide
  rw [spelled]
  split
  · -- infinity, which has no digits
    rename_i htop
    rw [htop] at hsplit
    rw [if_pos (by omega), if_pos (by omega)]
    rfl
  · rename_i htop
    have hne : bits ≠ 2047 * pow2 52 := by
      rintro rfl
      exact htop (Nat.mul_div_cancel _ hpos)
    rw [if_neg hne]
    split
    · -- below the least normal number, zero among them
      rename_i hbottom
      rw [hbottom] at hsplit
      split
      · rw [if_pos (by omega)]
        rfl
      · have hlow : bits % pow2 52 = bits := by omega
        rw [if_neg (by omega), if_pos (by omega)]
        simp only [hlow]
        rfl
    · -- a normal number, with its leading digit put back
      rename_i hnormal
      have hge : pow2 52 ≤ bits := by
        by_contra hlt
        exact hnormal (Nat.div_eq_of_lt (by omega))
      rw [if_neg (by omega), if_neg (by omega)]
      rfl

lemma before_spelled (ha : a ≤ 2047 * pow2 52) (hb : b ≤ 2047 * pow2 52) :
    Before (place (spelled false a)) (place (spelled false b)) ↔ a < b := by
  rw [place_spelled ha, place_spelled hb]
  split_ifs <;> simp only [Before, Int.lt_irrefl, false_or, true_and, false_iff] <;>
    simp only [pow2_eq] at * <;> omega

/-- **Doubles without a sign stand in the order of their bits.** -/
lemma ofMagnitude_le_iff (ha : a ≤ 2047 * pow2 52) (hb : b ≤ 2047 * pow2 52) :
    ofMagnitude false a ≤ ofMagnitude false b ↔ a ≤ b := by
  rw [le_iff_not_before (isNaN_ofMagnitude ha) (isNaN_ofMagnitude hb), unpack_ofMagnitude ha,
    unpack_ofMagnitude hb, before_spelled hb ha, Nat.not_lt]

lemma ofMagnitude_lt_iff (ha : a ≤ 2047 * pow2 52) (hb : b ≤ 2047 * pow2 52) :
    ofMagnitude false a < ofMagnitude false b ↔ a < b := by
  rw [lt_iff_before (isNaN_ofMagnitude ha) (isNaN_ofMagnitude hb), unpack_ofMagnitude ha,
    unpack_ofMagnitude hb, before_spelled ha hb]

/-! ### The order behind a sign -/

lemma place_neg {u : UnpackedFloat} (h : u.isNaN = false) : place u.neg = -place u := by
  rcases u with (_ | _) | _ | (_ | _) | ⟨(_ | _), m, d, _⟩ <;>
    first
      | rfl
      | (cases h; done)
      | simp [UnpackedFloat.neg, place]

lemma before_neg {p q : ℤ × ℤ × ℤ} : Before (-p) (-q) ↔ Before q p := by
  simp only [Before, Prod.fst_neg, Prod.snd_neg]
  omega

/-- **A minus sign turns the row of numbers round.** What is not a number stays out of it. -/
lemma neg_lt_neg_iff : -x < -y ↔ y < x := by
  by_cases hx : x.isNaN = false
  · by_cases hy : y.isNaN = false
    · rw [lt_iff_before ((isNaN_neg x).trans hx) ((isNaN_neg y).trans hy), lt_iff_before hy hx,
        unpack_neg, unpack_neg, place_neg hx, place_neg hy, before_neg]
    · exact iff_of_false (fun h => hy ((isNaN_neg y).symm.trans (numbers_of_lt h).2))
        fun h => hy (numbers_of_lt h).1
  · exact iff_of_false (fun h => hx ((isNaN_neg x).symm.trans (numbers_of_lt h).1))
      fun h => hx (numbers_of_lt h).2

lemma neg_beq_neg : (-x == -y) = (x == y) := by
  have hback : ∀ {u v : Float}, (u == v) = true → (-u == -v) = true := by
    intro u v h
    obtain ⟨hu, hv⟩ := numbers_of_beq h
    obtain ⟨huv, hvu⟩ := not_lt_of_beq h
    have hu' := (isNaN_neg u).trans hu
    have hv' := (isNaN_neg v).trans hv
    exact beq_of_le_of_le (le_of_not_lt hv' hu' (mt neg_lt_neg_iff.1 huv))
      (le_of_not_lt hu' hv' (mt neg_lt_neg_iff.1 hvu))
  refine Bool.eq_iff_iff.2 ⟨fun h => ?_, hback⟩
  have h := hback h
  rwa [neg_neg_eq, neg_neg_eq] at h

end Daybook.Number
