import Daybook.Number.Places
import Daybook.Proofs.Number.Digits
import Daybook.Proofs.Number.Nearest

/-!
Decimals with a fixed number of places. The exact value of a double is taken to the nearest multiple
of the last place, and a tie to the even one; the digits of this multiple are written with a point
between them. A whole number is what is left of the value without its fraction.
-/

namespace Daybook.Number

open Text

variable {p : ℕ} {v : ℚ} {cs : List Char}

/-! ### What a text shows -/

/-- Digits, of which none in front is a needless zero. -/
structure WholeDigits (ds : List Char) : Prop where
  digits : IsDigits ds
  ne_nil : ds ≠ []
  unpadded : ds = ['0'] ∨ ds.head? ≠ some '0'

/-- The text is `n / 10 ^ places` behind a sign, with so many digits behind the point; if there are
none there is no point. -/
def ShowsPlaces (negative : Bool) (places n : ℕ) (cs : List Char) : Prop :=
  ∃ whole fraction : List Char,
    cs = (if negative then ['-'] else []) ++ whole ++
      (if places = 0 then [] else '.' :: fraction) ∧
    WholeDigits whole ∧ IsDigits fraction ∧ fraction.length = places ∧
    ofDigits 10 (digitValues (whole ++ fraction)) = n

/-- The text is the whole number, with all its digits. -/
def ShowsWhole (n : ℤ) (cs : List Char) : Prop :=
  ∃ ds : List Char, cs = (if n < 0 then ['-'] else []) ++ ds ∧ WholeDigits ds ∧
    ofDigits 10 (digitValues ds) = n.natAbs

/-- Among the decimals with so many places `n / 10 ^ places` is nearest to the number. Where another
one is as near, the last digit is even. -/
structure NearestPlaces (v : ℚ) (places : ℕ) (n : ℤ) : Prop where
  le : ∀ k : ℤ, |v - n / 10 ^ places| ≤ |v - k / 10 ^ places|
  even : ∀ k : ℤ, k ≠ n → |v - k / 10 ^ places| = |v - n / 10 ^ places| → n % 2 = 0

def towardZero (v : ℚ) : ℤ := if 0 ≤ v then ⌊v⌋ else ⌈v⌉

/-! ### Digits -/

lemma wholeDigits_natDigits (n : ℕ) : WholeDigits (natDigits n) := by
  refine ⟨isDigits_natDigits n, natDigits_ne_nil n, ?_⟩
  rcases Nat.eq_zero_or_pos n with rfl | hn
  · exact .inl rfl
  · obtain ⟨c, cs, hcs, hc⟩ := head_natDigits hn
    refine .inr ?_
    rw [hcs, List.head?_cons, ne_eq, Option.some_inj]
    exact hc

lemma WholeDigits.take (h : WholeDigits cs) (hp : 0 < p) : WholeDigits (cs.take p) := by
  refine ⟨isDigits_take h.digits p, ?_, ?_⟩
  · rw [ne_eq, List.take_eq_nil_iff, not_or]
    exact ⟨Nat.ne_of_gt hp, h.ne_nil⟩
  · rcases h.unpadded with rfl | hhead
    · exact .inl (List.take_of_length_le hp)
    · rw [List.head?_take, if_neg (Nat.ne_of_gt hp)]
      exact .inr hhead

lemma wholeDigits_before (p n : ℕ) :
    WholeDigits ((paddedNat (p + 1) n).take ((paddedNat (p + 1) n).length - p)) := by
  rcases Nat.lt_or_ge p (natDigits n).length with hlong | hshort
  · have hpad : paddedNat (p + 1) n = natDigits n := by
      rw [paddedNat, padLeft, Nat.sub_eq_zero_of_le hlong]
      rfl
    rw [hpad]
    exact (wholeDigits_natDigits n).take (by omega)
  · have hfill : p + 1 - (natDigits n).length = p - (natDigits n).length + 1 := by omega
    generalize p - (natDigits n).length = k at hfill
    have hpad : paddedNat (p + 1) n = '0' :: (List.replicate k '0' ++ natDigits n) := by
      rw [paddedNat, padLeft, hfill, List.replicate_succ, List.cons_append]
    have hone : (paddedNat (p + 1) n).length - p = 1 := by
      rw [paddedNat, padLeft, List.length_append, List.length_replicate]
      omega
    rw [hone, hpad]
    exact ⟨isDigits_replicate 1, List.cons_ne_nil _ _, .inl rfl⟩

lemma lt_length_paddedNat (p n : ℕ) : p < (paddedNat (p + 1) n).length := by
  rw [paddedNat, padLeft, List.length_append, List.length_replicate]
  omega

/-- **The point divides the digits.** -/
lemma showsPlaces_withPoint (negative : Bool) (p n : ℕ) :
    ShowsPlaces negative p n ((if negative then ['-'] else []) ++ withPoint false p n) := by
  have hlength := lt_length_paddedNat p n
  have hdigits := isDigits_paddedNat (p + 1) n
  have hvalue := ofDigits_paddedNat (p + 1) n
  have hbefore := wholeDigits_before p n
  simp only [withPoint, Bool.not_false, and_true]
  generalize paddedNat (p + 1) n = ds at *
  refine ⟨ds.take (ds.length - p), ds.drop (ds.length - p), ?_, hbefore,
    isDigits_drop hdigits _, ?_, ?_⟩
  · rw [List.append_assoc]
  · rw [List.length_drop]
    omega
  · rw [List.take_append_drop, hvalue]

/-! ### Rounding to a place -/

lemma roundPlaces_eq (m : ℕ) (e : ℤ) (p : ℕ) :
    roundPlaces m e p = nearestWhole (m * 2 ^ e * 10 ^ p) := by
  obtain ⟨hden, hscale⟩ := scale2_eq (m * pow10 p) one_pos e
  have hpow : ((pow10 p : ℕ) : ℚ) = 10 ^ p := by
    rw [pow10]
    exact_mod_cast rfl
  rw [roundPlaces]
  simp only
  rw [roundHalfEven_eq hden, hscale, Nat.cast_one, div_one, Nat.cast_mul, hpow, mul_right_comm]

lemma nearest_int (hv : 0 ≤ v) (k : ℤ) : |v - nearestWhole v| ≤ |v - k| ∧
    (k ≠ nearestWhole v → |v - k| = |v - nearestWhole v| → nearestWhole v % 2 = 0) := by
  have hnear := nearest_nearestWhole hv
  obtain ⟨n, rfl | rfl⟩ := k.eq_nat_or_neg
  · rw [Int.cast_natCast]
    exact ⟨hnear.le n, fun hne htie => hnear.even n (fun h => hne (by rw [h])) htie⟩
  · have hn : (0 : ℚ) ≤ n := Nat.cast_nonneg n
    rw [Int.cast_neg, Int.cast_natCast]
    refine ⟨hnear.le_neg Nat.cast_zero hv hn, fun hne htie => ?_⟩
    have hzero : (n : ℚ) = 0 := hnear.eq_zero_of_neg Nat.cast_zero hv hn htie
    rw [hzero, neg_zero, ← Nat.cast_zero (R := ℚ)] at htie
    refine hnear.even 0 (fun h => hne ?_) htie
    rw [Nat.cast_eq_zero.1 hzero, ← h]
    rfl

lemma abs_sub_div (v : ℚ) (p : ℕ) (k : ℚ) : |v - k / 10 ^ p| = |v * 10 ^ p - k| / 10 ^ p := by
  have hpow : (0 : ℚ) < 10 ^ p := by positivity
  rw [eq_div_iff hpow.ne', ← abs_of_pos hpow, ← abs_mul, abs_of_pos hpow, sub_mul,
    div_mul_cancel₀ _ hpow.ne']

lemma abs_signedValue_sub (s : Bool) (v : ℚ) (k : ℤ) :
    |signedValue s v - k| = |v - (if s then -k else k : ℤ)| := by
  cases s
  · rfl
  · rw [signedValue_true, if_pos rfl, Int.cast_neg, ← abs_neg]
    congr 1
    ring

/-- **Rounding by the exact value goes to the nearest decimal**, on either side of zero. -/
lemma nearestPlaces_signedValue (hv : 0 ≤ v) (s : Bool) (p : ℕ) :
    NearestPlaces (signedValue s v) p (withSign s (nearestWhole (v * 10 ^ p))) := by
  have hpow : (0 : ℚ) < 10 ^ p := by positivity
  have hscaled : 0 ≤ v * 10 ^ p := by positivity
  -- the sign goes over to the whole number, and the distance stays
  have hdist : ∀ k : ℤ, |signedValue s v - k / 10 ^ p| =
      |v * 10 ^ p - (if s then -k else k : ℤ)| / 10 ^ p := by
    intro k
    have hsign : signedValue s v * 10 ^ p = signedValue s (v * 10 ^ p) := by
      cases s
      · rfl
      · exact neg_mul _ _
    rw [abs_sub_div, hsign, abs_signedValue_sub]
  have hself : (if s then -withSign s (nearestWhole (v * 10 ^ p))
      else withSign s (nearestWhole (v * 10 ^ p))) = (nearestWhole (v * 10 ^ p) : ℤ) := by
    cases s
    · rfl
    · exact neg_neg _
  refine ⟨fun k => ?_, fun k hk htie => ?_⟩
  · rw [hdist, hdist, hself, Int.cast_natCast, div_le_div_iff_of_pos_right hpow]
    exact (nearest_int hscaled _).1
  · rw [hdist, hdist, hself, Int.cast_natCast, div_left_inj' hpow.ne'] at htie
    have hne : (if s then -k else k) ≠ (nearestWhole (v * 10 ^ p) : ℤ) := by
      cases s
      · exact hk
      · intro h
        refine hk ?_
        rw [withSign, if_pos rfl, ← h]
        exact (neg_neg k).symm
    have heven := (nearest_int hscaled _).2 hne htie
    cases s
    · rw [withSign, if_neg Bool.false_ne_true]
      omega
    · rw [withSign, if_pos rfl]
      omega

/-! ### Dropping the fraction -/

lemma truncate_eq_floor (m : ℕ) (e : ℤ) : truncate m e = ⌊(m : ℚ) * 2 ^ e⌋₊ := by
  simp only [truncate, pow2_eq]
  split_ifs with he
  · obtain ⟨i, rfl⟩ := Int.eq_ofNat_of_zero_le he
    rw [zpow_natCast, Int.toNat_natCast]
    exact_mod_cast (Nat.floor_natCast (m * 2 ^ i)).symm
  · obtain ⟨i, hi⟩ := Int.eq_ofNat_of_zero_le (a := -e) (by omega)
    have he' : e = -(i : ℤ) := by omega
    have hdiv : (m : ℚ) * 2 ^ e = m / (2 ^ i : ℕ) := by
      rw [he', zpow_neg, zpow_natCast, Nat.cast_pow, Nat.cast_ofNat, div_eq_mul_inv]
    rw [hdiv, Nat.floor_div_eq_div, hi, Int.toNat_natCast]

lemma withSign_floor (hv : 0 ≤ v) (s : Bool) : withSign s ⌊v⌋₊ = towardZero (signedValue s v) := by
  have hfloor : ((⌊v⌋₊ : ℕ) : ℤ) = ⌊v⌋ := Int.natCast_floor_eq_floor hv
  cases s
  · rw [signedValue_false, towardZero, if_pos hv]
    exact hfloor
  · rw [withSign, if_pos rfl, hfloor, signedValue_true, towardZero, Int.ceil_neg]
    split_ifs with hneg
    · have hzero : v = 0 := by linarith
      rw [hzero]
      simp
    · rfl

lemma withSign_truncate (s : Bool) (m : ℕ) (e : ℤ) :
    withSign s (truncate m e) = towardZero (signedValue s (m * 2 ^ e)) := by
  rw [truncate_eq_floor, withSign_floor (by positivity)]

end Daybook.Number
