import Daybook.Proofs.Number.Alike
import Daybook.Proofs.Number.Ranks
import Daybook.Proofs.Summary.ExtremeDays

/-!
Figures that do not look at the order of the days. The extremes, the median and the number of
present days of two series are the same if their values are the same up to order, whatever days
these stand on. Only the days of the extremes tell an order: each is the last one that holds it.
-/

namespace Daybook

namespace Summary

open Number

variable {s t : Series} {c c' : Context} {xs ys zs ws : List Float} {a b : Option Float}
  {le : Float → Float → Prop} {f : Fault}

/-- The same number, or no number on both sides, or the same reason for none. -/
inductive AlikeResults : Outcome Value → Outcome Value → Prop
  | number {x y : Float} : Alike x y → AlikeResults (.ok (.number x)) (.ok (.number y))
  | stop (e : Stop) : AlikeResults (.error e) (.error e)

/-! ### The extremes -/

section

variable (hs : s.stats = s.recalculate.stats)

include hs

lemma least_eq : s.stats.least = s.present.foldl Stats.lesser none := by
  rw [hs]
  exact congrArg Stats.least (Stats.ofEntries_eq s.entries)

lemma greatest_eq : s.stats.greatest = s.present.foldl Stats.greater none := by
  rw [hs]
  exact congrArg Stats.greatest (Stats.ofEntries_eq s.entries)

lemma count_eq : s.stats.count = s.present.length := by
  rw [hs]
  exact (congrArg Stats.count (Stats.ofEntries_eq s.entries)).trans length_presentEntries

end

lemma same_of_sameNumbers {r : ℤ → ℤ → Prop} [Std.Antisymm r]
    (hr : ∀ x y, x.isNaN = false → y.isNaN = false → (le x y ↔ r (rank x) (rank y)))
    (hxs : AllNumbers xs) (hys : AllNumbers ys) (h : SameNumbers xs ys)
    (ha : Extreme le xs a) (hb : Extreme le ys b) : Same a b := by
  have hperm := h.perm_map_rank hxs hys
  rcases ha with ⟨rfl, rfl⟩ | ⟨m, rfl, hm, hle⟩
  · have hnil : ys = [] := List.map_eq_nil_iff.1 hperm.symm.eq_nil
    exact .inl (hb.none_iff.2 hnil).symm
  · rcases hb with ⟨-, rfl⟩ | ⟨n, rfl, hn, hle'⟩
    · cases List.map_eq_nil_iff.1 hperm.eq_nil ▸ hm
    · -- each list holds a number with the rank of the other's extreme
      obtain ⟨x, hx, hxn⟩ := List.mem_map.1 (hperm.mem_iff.2 (List.mem_map_of_mem hn))
      obtain ⟨y, hy, hym⟩ := List.mem_map.1 (hperm.mem_iff.1 (List.mem_map_of_mem hm))
      have hmn := (hr m x (hxs m hm) (hxs x hx)).1 (hle x hx)
      have hnm := (hr n y (hys n hn) (hys y hy)).1 (hle' y hy)
      rw [hxn] at hmn
      rw [hym] at hnm
      exact .inr ⟨m, n, rfl, rfl,
        (beq_iff_rank (hxs m hm) (hys n hn)).2 (Std.Antisymm.antisymm _ _ hmn hnm)⟩

lemma alikeResults_of_same (h : Same a b) (f : Fault) :
    AlikeResults (orFault (a.map .number) f) (orFault (b.map .number) f) := by
  rcases h with rfl | ⟨x, y, rfl, rfl, hxy⟩
  · cases a with
    | none => exact .stop _
    | some x => exact .number (alike_refl x)
  · exact .number (.inl hxy)

/-- One of the values stands in the relation to all of them, and the day is the last one that holds
it. -/
def OnLastDay (le : Float → Float → Prop) (s : Series) (date : Outcome Value) : Prop :=
  ∃ x d, x ∈ s.present ∧ (∀ y ∈ s.present, le x y) ∧ date = .ok (day d) ∧ s.LastHolds x d

lemma onLastDay_of_extreme (hn : AllNumbers s.present) (hne : s.present ≠ [])
    (h : Extreme le s.present a) (f : Fault) :
    OnLastDay le s (orFault ((a.bind (lastDayOf s)).map day) f) := by
  rcases h with ⟨-, hnil⟩ | ⟨m, rfl, hm, hle⟩
  · exact absurd hnil hne
  · obtain ⟨d, hd⟩ := exists_lastDayOf hm (hn m hm)
    rw [Option.bind_some, hd]
    exact ⟨m, d, hm, hle, rfl, lastHolds_of_lastDayOf hd⟩

/-! ### The median -/

lemma middle?_of_odd (h : zs.length % 2 = 1) : middle? zs = some zs[zs.length / 2] := by
  simp only [middle?, h, if_true]
  exact List.getElem?_eq_getElem _

lemma middle?_of_even (h : zs.length % 2 = 0) (hne : 0 < zs.length) :
    middle? zs = some ((zs[zs.length / 2 - 1] + zs[zs.length / 2]) / 2.0) := by
  have hlow := List.getElem?_eq_getElem (l := zs) (i := zs.length / 2 - 1) (by omega)
  have hhigh := List.getElem?_eq_getElem (l := zs) (i := zs.length / 2) (by omega)
  simp only [middle?, h, hlow, hhigh]
  rfl

/-- What the median is of values in rising order: the one in the middle, or half the sum of the two
that share the middle. -/
structure IsMiddle (zs : List Float) (r : Outcome Value) : Prop where
  odd : zs.length % 2 = 1 → ∃ x, zs[zs.length / 2]? = some x ∧ r = .ok (.number x)
  even : zs.length % 2 = 0 → zs ≠ [] → ∃ x y, zs[zs.length / 2 - 1]? = some x ∧
    zs[zs.length / 2]? = some y ∧ r = .ok (.number ((x + y) / 2.0))
  none : zs = [] → r = .fault (.noData .median)

lemma isMiddle_middle? (zs : List Float) :
    IsMiddle zs (orFault ((middle? zs).map .number) (.noData .median)) where
  odd h := ⟨_, List.getElem?_eq_getElem (by omega), by rw [middle?_of_odd h]; rfl⟩
  even h hne := by
    have hpos := List.length_pos_iff.2 hne
    exact ⟨_, _, List.getElem?_eq_getElem (by omega), List.getElem?_eq_getElem (by omega), by
      rw [middle?_of_even h hpos]
      rfl⟩
  none h := by
    rw [h]
    rfl

lemma alikeResults_middle? (h : List.Forall₂ (fun z w => (z == w) = true) zs ws) (f : Fault) :
    AlikeResults (orFault ((middle? zs).map .number) f) (orFault ((middle? ws).map .number) f) := by
  obtain ⟨hlength, hget⟩ := List.forall₂_iff_get.1 h
  have hmiddle : ∀ i (hi : i < zs.length) (hi' : i < ws.length), Alike zs[i] ws[i] :=
    fun i hi hi' => .inl (hget i hi hi')
  rcases Nat.mod_two_eq_zero_or_one zs.length with heven | hodd
  · rcases Nat.eq_zero_or_pos zs.length with hzero | hpos
    · obtain rfl := List.eq_nil_of_length_eq_zero hzero
      obtain rfl := List.eq_nil_of_length_eq_zero (hlength ▸ hzero)
      exact .stop _
    · rw [middle?_of_even heven hpos, middle?_of_even (hlength ▸ heven) (hlength ▸ hpos)]
      simp only [← hlength]
      exact .number (((hmiddle _ _ _).add (hmiddle _ _ _)).div 2.0)
  · rw [middle?_of_odd hodd, middle?_of_odd (hlength ▸ hodd)]
    simp only [← hlength]
    exact .number (hmiddle _ _ _)

/-! ### All of them -/

/-- The figures that are the same on both sides. -/
structure SameFigures (s t : Series) (c c' : Context) : Prop where
  least : AlikeResults (least.of c s) (least.of c' t)
  greatest : AlikeResults (greatest.of c s) (greatest.of c' t)
  median : AlikeResults (median.of c s) (median.of c' t)
  daysPresent : daysPresent.of c s = daysPresent.of c' t

/-- **The order of the days does not matter** to the extremes, to the median and to the number of
present days. The median stands in the middle of the values in rising order, and the extremes are
reported for the last days that hold them. All values are numbers, and the figures that are kept
with the series are those that belong to its values. -/
theorem figures_of_rearranged (hs : s.stats = s.recalculate.stats) (hn : AllNumbers s.present)
    (c : Context) :
    (s.present ≠ [] → OnLastDay (· ≤ ·) s (leastDate.of c s) ∧
      OnLastDay (fun x y => y ≤ x) s (greatestDate.of c s)) ∧
    (∃ zs, zs.Perm s.present ∧ zs.Pairwise (· ≤ ·) ∧ IsMiddle zs (median.of c s)) ∧
    ∀ t c', t.stats = t.recalculate.stats → AllNumbers t.present →
      SameNumbers s.present t.present → SameFigures s t c c' := by
  have hleast := picks_lesser.extreme_foldl_of_numbers hn
  have hgreatest := picks_greater.extreme_foldl_of_numbers hn
  rw [← least_eq hs] at hleast
  rw [← greatest_eq hs] at hgreatest
  refine ⟨fun hne => ⟨onLastDay_of_extreme hn hne hleast _,
    onLastDay_of_extreme hn hne hgreatest _⟩,
    ⟨_, sort_perm hn, sort_sorted hn, isMiddle_middle? _⟩, fun t c' ht hn' hsame => ?_⟩
  -- the same folds over the other order of the values
  have hleast' := picks_lesser.extreme_foldl_of_numbers hn'
  have hgreatest' := picks_greater.extreme_foldl_of_numbers hn'
  rw [← least_eq ht] at hleast'
  rw [← greatest_eq ht] at hgreatest'
  refine ⟨alikeResults_of_same ?_ _, alikeResults_of_same ?_ _,
    alikeResults_middle? (hsame.sort hn hn') _, ?_⟩
  · exact same_of_sameNumbers (r := (· ≤ ·)) (fun _ _ => le_iff_rank) hn hn' hsame hleast hleast'
  · exact same_of_sameNumbers (r := (· ≥ ·)) (fun _ _ hx hy => le_iff_rank hy hx) hn hn' hsame
      hgreatest hgreatest'
  · simp only [Summary.of, count_eq hs, count_eq ht, hsame.length_eq]

/-- A value that stands on the first and on the last day. -/
def valley : Series where
  entries := [⟨(Date.of? 2024 2 28).get Date.isSome_february28, some 0.0⟩,
    ⟨(Date.of? 2024 2 29).get Date.isSome_february29, some 3.0⟩,
    ⟨(Date.of? 2024 3 1).get Date.isSome_march1, some 0.0⟩]

/-- The same values on other days, one of the zeros behind a minus sign. -/
def reordered : Series where
  entries := [⟨(Date.of? 2024 3 1).get Date.isSome_march1, some 3.0⟩,
    ⟨(Date.of? 2024 2 29).get Date.isSome_february29, none⟩,
    ⟨(Date.of? 2024 2 28).get Date.isSome_february28, some (-0.0)⟩,
    ⟨(Date.of? 2024 2 28).get Date.isSome_february28, some 0.0⟩]

theorem figures_of_rearranged_valley :
    valley.stats = valley.recalculate.stats ∧ AllNumbers valley.present ∧ valley.present ≠ [] ∧
      reordered.stats = reordered.recalculate.stats ∧ AllNumbers reordered.present ∧
      SameNumbers valley.present reordered.present ∧
      OnLastDay (· ≤ ·) valley (leastDate.of {} valley) ∧
      SameFigures valley reordered {} {} := by
  have hn : AllNumbers valley.present := by unfold AllNumbers; decide +kernel
  have hn' : AllNumbers reordered.present := by unfold AllNumbers; decide +kernel
  have hne : valley.present ≠ [] := by decide
  have hsame : SameNumbers valley.present reordered.present := by
    refine ⟨[3.0, 0.0, 0.0], by decide +kernel, ?_⟩
    exact .cons (by decide +kernel) (.cons (by decide +kernel) (.cons (by decide +kernel) .nil))
  obtain ⟨hdays, -, hfigures⟩ := figures_of_rearranged (s := valley) rfl hn {}
  exact ⟨rfl, hn, hne, rfl, hn', hsame, (hdays hne).1, hfigures reordered {} rfl hn' hsame⟩

end Summary

end Daybook
