import Mathlib.Data.List.Sort
import Daybook.Number.Sorting
import Daybook.Proofs.Number.Value

/-!
Ranks. Every double that is a number has a rank in a row of whole numbers, and numbers compare as
their ranks do; the two zeros share one. Lists hold the same numbers if their ranks are the same up
to order, and sorting then gives the same ranks.
-/

namespace Daybook.Number

variable {x y : Float} {s : Bool} {bits : ℕ} {xs ys : List Float}

/-- The place of a double in the row of all numbers, counted from zero. -/
def rank (x : Float) : ℤ := signedBits (signBit x) (x.toBits.toNat % pow2 63)

lemma rank_ofMagnitude (h : bits ≤ 2047 * pow2 52) :
    rank (ofMagnitude s bits) = signedBits s bits := by
  have hbits : (if s then pow2 63 + bits else bits) % pow2 63 = bits := by
    simp only [pow2_eq] at h ⊢
    split_ifs <;> omega
  rw [rank, signBit_ofMagnitude h, toNat_toBits_ofMagnitude h, hbits]

lemma exists_of_isNaN_eq_false (h : x.isNaN = false) :
    ∃ s bits, bits ≤ 2047 * pow2 52 ∧ x = ofMagnitude s bits := by
  obtain ⟨s, bits, hlt, rfl⟩ := exists_ofMagnitude x
  refine ⟨s, bits, ?_, rfl⟩
  by_contra hgt
  have htop : bits / pow2 52 = 2047 := by
    simp only [pow2_eq] at hlt hgt ⊢
    omega
  have hrest : bits % pow2 52 ≠ 0 := by
    simp only [pow2_eq] at hgt htop ⊢
    omega
  rw [isNaN_eq, unpack_ofMagnitude_of_lt hlt, spelled, if_pos htop, if_neg hrest] at h
  cases h

section

variable (hx : x.isNaN = false) (hy : y.isNaN = false)

include hx hy

/-- **Numbers compare as their ranks do.** -/
lemma lt_iff_rank : x < y ↔ rank x < rank y := by
  rw [lt_iff_before hx hy]
  obtain ⟨s, a, ha, rfl⟩ := exists_of_isNaN_eq_false hx
  obtain ⟨t, b, hb, rfl⟩ := exists_of_isNaN_eq_false hy
  rw [unpack_ofMagnitude ha, unpack_ofMagnitude hb, before_iff ha hb, rank_ofMagnitude ha,
    rank_ofMagnitude hb]

lemma le_iff_rank : x ≤ y ↔ rank x ≤ rank y := by
  rw [le_iff_not_before hx hy, ← lt_iff_before hy hx, lt_iff_rank hy hx, not_lt]

lemma beq_iff_rank : (x == y) = true ↔ rank x = rank y := by
  constructor
  · intro h
    obtain ⟨hxy, hyx⟩ := not_lt_of_beq h
    rw [lt_iff_rank hx hy, not_lt] at hxy
    rw [lt_iff_rank hy hx, not_lt] at hyx
    exact le_antisymm hyx hxy
  · intro h
    exact beq_of_le_of_le ((le_iff_rank hx hy).2 h.le) ((le_iff_rank hy hx).2 h.ge)

end

/-! ### The same numbers in another order -/

/-- The same numbers, each as often, in any order; a zero may change its sign. -/
def SameNumbers (xs ys : List Float) : Prop :=
  ∃ zs, xs.Perm zs ∧ List.Forall₂ (fun z y => (z == y) = true) zs ys

def AllNumbers (xs : List Float) : Prop := ∀ x ∈ xs, x.isNaN = false

lemma SameNumbers.length_eq (h : SameNumbers xs ys) : xs.length = ys.length := by
  obtain ⟨zs, hperm, hsame⟩ := h
  exact hperm.length_eq.trans hsame.length_eq

lemma forall₂_beq_iff (hxs : AllNumbers xs) (hys : AllNumbers ys) :
    List.Forall₂ (fun x y => (x == y) = true) xs ys ↔ xs.map rank = ys.map rank := by
  induction xs generalizing ys with
  | nil => rw [List.forall₂_nil_left_iff, List.map_nil, eq_comm (a := []), List.map_eq_nil_iff]
  | cons x xs ih =>
    cases ys with
    | nil => simp
    | cons y ys =>
      obtain ⟨hx, hxs⟩ := List.forall_mem_cons.1 hxs
      obtain ⟨hy, hys⟩ := List.forall_mem_cons.1 hys
      rw [List.forall₂_cons, beq_iff_rank hx hy, ih hxs hys, List.map_cons, List.map_cons,
        List.cons.injEq]

lemma SameNumbers.perm_map_rank (hxs : AllNumbers xs) (hys : AllNumbers ys)
    (h : SameNumbers xs ys) : (xs.map rank).Perm (ys.map rank) := by
  obtain ⟨zs, hperm, hsame⟩ := h
  have hzs : AllNumbers zs := fun z hz => hxs z (hperm.mem_iff.2 hz)
  rw [← (forall₂_beq_iff hzs hys).1 hsame]
  exact hperm.map rank

/-! ### Sorting -/

lemma isNaN_eq_false (h : x.isNaN = false) : isNaN x = false := by
  obtain ⟨s, bits, hle, rfl⟩ := exists_of_isNaN_eq_false h
  rcases hle.eq_or_lt with rfl | hlt
  · cases s <;> decide +kernel
  · obtain ⟨m, e, hparts, -⟩ := parts_ofMagnitude (s := s) hlt
    rw [isNaN, hparts]
    rfl

lemma sort_eq (hxs : AllNumbers xs) : sort xs = xs.mergeSort fun a b => !decide (b < a) := by
  have hnan : xs.any isNaN = false := List.any_eq_false.2 fun x hx => by
    rw [isNaN_eq_false (hxs x hx)]
    decide
  rw [sort, hnan]
  rfl

lemma sort_perm (hxs : AllNumbers xs) : (sort xs).Perm xs := by
  rw [sort_eq hxs]
  exact List.mergeSort_perm _ _

lemma map_rank_sort (hxs : AllNumbers xs) :
    (sort xs).map rank = (xs.map rank).mergeSort := by
  rw [sort_eq hxs]
  refine List.map_mergeSort fun x hx y hy => ?_
  rw [decide_eq_decide.2 (lt_iff_rank (hxs y hy) (hxs x hx)), ← decide_not, decide_eq_decide]
  exact not_lt

lemma sort_sorted (hxs : AllNumbers xs) : (sort xs).Pairwise (· ≤ ·) := by
  have hranks : ((sort xs).map rank).Pairwise (· ≤ ·) := by
    rw [map_rank_sort hxs]
    exact List.pairwise_mergeSort' _ _
  rw [List.pairwise_map] at hranks
  refine hranks.imp_of_mem fun hx hy h => ?_
  have hperm := sort_perm hxs
  exact (le_iff_rank (hxs _ (hperm.mem_iff.1 hx)) (hxs _ (hperm.mem_iff.1 hy))).2 h

/-- **The same numbers are sorted to the same ranks.** -/
lemma SameNumbers.sort (hxs : AllNumbers xs) (hys : AllNumbers ys) (h : SameNumbers xs ys) :
    List.Forall₂ (fun x y => (x == y) = true) (Number.sort xs) (Number.sort ys) := by
  have hxs' : AllNumbers (Number.sort xs) := fun x hx => hxs x ((sort_perm hxs).mem_iff.1 hx)
  have hys' : AllNumbers (Number.sort ys) := fun y hy => hys y ((sort_perm hys).mem_iff.1 hy)
  rw [forall₂_beq_iff hxs' hys', map_rank_sort hxs, map_rank_sort hys]
  have hperm := (List.mergeSort_perm (xs.map rank) (· ≤ ·)).trans
    ((h.perm_map_rank hxs hys).trans (List.mergeSort_perm (ys.map rank) (· ≤ ·)).symm)
  exact hperm.eq_of_pairwise' (List.pairwise_mergeSort' _ _) (List.pairwise_mergeSort' _ _)

end Daybook.Number
