import Daybook.Proofs.Number.UnitScale
import Daybook.Proofs.Series.Kept

/-!
Mapping a series onto the unit range. The least value goes to zero and the greatest one to one, the
order is kept, and doing it once more changes nothing, exactly if the span of the values is in the
range of doubles. Two finite values may lie further apart than that: the days that hold the
greatest one get a NaN then.
-/

namespace Daybook

namespace Series

variable {s t : Series} {k : ℕ} {lo hi x y : Float} {v : Value}

/-- The second series is the first one mapped onto the unit range: absent days stay absent, the
least values become zero and the greatest ones one, no two values change their order, and mapping
the result again gives the same. -/
structure MapsOntoUnit (s t : Series) (lo hi : Float) : Prop where
  dates : t.dates = s.dates
  absent : ∀ k, t.valueOn k = none ↔ s.valueOn k = none
  bounds : ∀ k y, t.valueOn k = some y → 0.0 ≤ y ∧ y ≤ 1.0
  lowest : ∀ k x y, s.valueOn k = some x → t.valueOn k = some y → (x == lo) = true →
    (y == 0.0) = true
  highest : ∀ k x y, s.valueOn k = some x → t.valueOn k = some y → (x == hi) = true →
    (y == 1.0) = true
  mono : ∀ j k x x' y y', s.valueOn j = some x → s.valueOn k = some x' →
    t.valueOn j = some y → t.valueOn k = some y' → x ≤ x' → y ≤ y'
  least : Same t.stats.least (some 0.0)
  greatest : Same t.stats.greatest (some 1.0)
  again : ∃ u : Series, Reshape.normalized t = .ok u.asValue ∧ u.dates = t.dates ∧
    ∀ k, Same (u.valueOn k) (t.valueOn k)

/-! ### A range that holds all values -/

lemma exists_of_normalized (h : Reshape.normalized s = .ok v) : ∃ lo hi,
    s.stats.least = some lo ∧ s.stats.greatest = some hi ∧ ¬ hi ≤ lo ∧
      v = (s.mapPresent (Number.toUnit lo hi)).asValue := by
  rw [Reshape.normalized] at h
  split at h
  · rename_i lo hi hleast hgreatest
    split_ifs at h with hle
    cases h
    exact ⟨lo, hi, hleast, hgreatest, hle, rfl⟩
  · cases h

lemma exists_valueOn (h : x ∈ s.present) : ∃ k, s.valueOn k = some x := by
  obtain ⟨e, he, hx⟩ := mem_present.1 h
  obtain ⟨k, hk⟩ := List.mem_iff_getElem?.1 he
  exact ⟨k, by rw [valueOn, hk]; exact hx⟩

lemma present_mapPresent (f : Float → Float) : (s.mapPresent f).present = s.present.map f := by
  simp only [present, mapPresent, derive, List.filterMap_map, List.map_filterMap]
  rfl

/-- All present values are finite, and they reach from the one number to the other. -/
structure Spans (s : Series) (lo hi : Float) : Prop where
  finite : ∀ x ∈ s.present, Number.isFinite x = true
  range : Number.Range lo hi
  least : s.stats.least = some lo
  greatest : s.stats.greatest = some hi
  lo_mem : lo ∈ s.present
  hi_mem : hi ∈ s.present
  holds : ∀ x ∈ s.present, Number.Range.Holds lo hi x

lemma nanFree_of_finite (h : ∀ x ∈ s.present, Number.isFinite x = true) : NaNFree s.entries :=
  fun x hx => Number.isNaN_of_isFinite (h x hx)

lemma Ranged.spans (hs : s.Ranged) (hfin : ∀ x ∈ s.present, Number.isFinite x = true)
    (hlo : s.stats.least = some lo) (hhi : s.stats.greatest = some hi) (hlt : ¬ hi ≤ lo) :
    s.Spans lo hi := by
  have hleast := hs.least
  have hgreatest := hs.greatest
  rw [hlo] at hleast
  rw [hhi] at hgreatest
  have hflo := hfin lo hleast.mem
  have hfhi := hfin hi hgreatest.mem
  refine ⟨hfin, ⟨hflo, hfhi, ?_⟩, hlo, hhi, hleast.mem, hgreatest.mem, fun x hx => ?_⟩
  · rwa [Number.le_iff_value hfhi hflo, not_le] at hlt
  · have hfx := hfin x hx
    exact ⟨hfx, (Number.le_iff_value hflo hfx).1 (hleast.forall_mem x hx),
      (Number.le_iff_value hfx hfhi).1 (hgreatest.forall_mem x hx)⟩

lemma Spans.normalized_eq (h : s.Spans lo hi) :
    Reshape.normalized s = .ok (s.mapPresent (Number.toUnit lo hi)).asValue := by
  have hlt : ¬ hi ≤ lo := by
    rw [Number.le_iff_value h.range.finite_hi h.range.finite_lo, not_le]
    exact h.range.lt
  rw [Reshape.normalized, h.least, h.greatest]
  exact if_neg hlt

lemma Spans.holds_of_valueOn (h : s.Spans lo hi) (hx : s.valueOn k = some x) :
    Number.Range.Holds lo hi x :=
  h.holds x (mem_present_of_valueOn hx)

lemma same_of_value_eq (hx : Number.isFinite x = true) (hy : Number.isFinite y = true)
    (h : Number.value x = Number.value y) : Same (some x) (some y) :=
  .inr ⟨x, y, rfl, rfl, (Number.beq_iff_value hx hy).2 h⟩

/-! ### The unit range -/

section

variable (h : s.Spans lo hi) (hspan : Number.isFinite (hi - lo) = true)

include h hspan

lemma Spans.holds_mapPresent (hy : y ∈ (s.mapPresent (Number.toUnit lo hi)).present) :
    Number.isFinite y = true ∧ 0 ≤ Number.value y ∧ Number.value y ≤ 1 := by
  rw [present_mapPresent] at hy
  obtain ⟨x, hx, rfl⟩ := List.mem_map.1 hy
  exact ⟨h.range.isFinite_toUnit hspan (h.holds x hx), h.range.toUnit_mem hspan (h.holds x hx)⟩

lemma Spans.exists_spans_mapPresent : ∃ lo' hi', Number.value lo' = 0 ∧ Number.value hi' = 1 ∧
    (s.mapPresent (Number.toUnit lo hi)).Spans lo' hi' := by
  have hfin : ∀ y ∈ (s.mapPresent (Number.toUnit lo hi)).present, Number.isFinite y = true :=
    fun y hy => (h.holds_mapPresent hspan hy).1
  have hmem : ∀ x ∈ s.present,
      Number.toUnit lo hi x ∈ (s.mapPresent (Number.toUnit lo hi)).present := fun x hx => by
    rw [present_mapPresent]
    exact List.mem_map_of_mem hx
  have hlo := hmem lo h.lo_mem
  have hhi := hmem hi h.hi_mem
  have hranged : (s.mapPresent (Number.toUnit lo hi)).Ranged :=
    ranged_of_stats_eq (derives_mapPresent _ s).stats_eq (nanFree_of_finite hfin)
  obtain ⟨lo', hlo'⟩ := Option.ne_none_iff_exists'.1 fun hnone =>
    List.ne_nil_of_mem hlo (hranged.least.none_iff.1 hnone)
  obtain ⟨hi', hhi'⟩ := Option.ne_none_iff_exists'.1 fun hnone =>
    List.ne_nil_of_mem hhi (hranged.greatest.none_iff.1 hnone)
  have hleast := hranged.least
  have hgreatest := hranged.greatest
  rw [hlo'] at hleast
  rw [hhi'] at hgreatest
  -- the extremes lie in the unit range, and the ends of the range are among the values
  obtain ⟨hflo, hnonneg, -⟩ := h.holds_mapPresent hspan hleast.mem
  obtain ⟨hfhi, -, hle⟩ := h.holds_mapPresent hspan hgreatest.mem
  have hzero : Number.value lo' = 0 := by
    have hend := (Number.le_iff_value hflo (hfin _ hlo)).1 (hleast.forall_mem _ hlo)
    rw [h.range.value_toUnit_lo hspan h.range.holds_lo rfl] at hend
    exact le_antisymm hend hnonneg
  have hone : Number.value hi' = 1 := by
    have hend := (Number.le_iff_value (hfin _ hhi) hfhi).1 (hgreatest.forall_mem _ hhi)
    rw [h.range.value_toUnit_hi hspan h.range.holds_hi rfl] at hend
    exact le_antisymm hle hend
  refine ⟨lo', hi', hzero, hone, hranged.spans hfin hlo' hhi' ?_⟩
  rw [Number.le_iff_value hfhi hflo, hzero, hone]
  exact not_le.2 zero_lt_one

lemma Spans.mapsOntoUnit : s.MapsOntoUnit (s.mapPresent (Number.toUnit lo hi)) lo hi := by
  obtain ⟨lo', hi', hzero, hone, hunit⟩ := h.exists_spans_mapPresent hspan
  have hmapped : ∀ {k x y}, s.valueOn k = some x →
      (s.mapPresent (Number.toUnit lo hi)).valueOn k = some y → y = Number.toUnit lo hi x := by
    intro k x y hx hy
    rw [valueOn_mapPresent, hx] at hy
    exact (Option.some.inj hy).symm
  have hfinite : ∀ {k y}, (s.mapPresent (Number.toUnit lo hi)).valueOn k = some y →
      Number.isFinite y = true := fun hy => hunit.finite _ (mem_present_of_valueOn hy)
  refine ⟨dates_mapPresent _ s, ?absent, ?bounds, ?lowest, ?highest, ?mono, ?least, ?greatest,
    ?again⟩
  case absent =>
    intro k
    rw [valueOn_mapPresent, Option.map_eq_none_iff]
  case bounds =>
    intro k y hy
    obtain ⟨hfin, hnonneg, hle⟩ := h.holds_mapPresent hspan (mem_present_of_valueOn hy)
    rw [Number.le_iff_value Number.isFinite_zero hfin, Number.le_iff_value hfin Number.isFinite_one,
      Number.value_zero, Number.value_one]
    exact ⟨hnonneg, hle⟩
  case lowest =>
    intro k x y hx hy hlo
    have hholds := h.holds_of_valueOn hx
    rw [Number.beq_iff_value hholds.finite h.range.finite_lo] at hlo
    rw [Number.beq_iff_value (hfinite hy) Number.isFinite_zero, Number.value_zero, hmapped hx hy]
    exact h.range.value_toUnit_lo hspan hholds hlo
  case highest =>
    intro k x y hx hy hhi
    have hholds := h.holds_of_valueOn hx
    rw [Number.beq_iff_value hholds.finite h.range.finite_hi] at hhi
    rw [Number.beq_iff_value (hfinite hy) Number.isFinite_one, Number.value_one, hmapped hx hy]
    exact h.range.value_toUnit_hi hspan hholds hhi
  case mono =>
    intro j k x x' y y' hx hx' hy hy' hle
    have hholds := h.holds_of_valueOn hx
    have hholds' := h.holds_of_valueOn hx'
    rw [Number.le_iff_value hholds.finite hholds'.finite] at hle
    rw [Number.le_iff_value (hfinite hy) (hfinite hy'), hmapped hx hy, hmapped hx' hy']
    exact h.range.toUnit_mono hspan hholds hholds' hle
  case least =>
    rw [hunit.least]
    exact same_of_value_eq hunit.range.finite_lo Number.isFinite_zero
      (hzero.trans Number.value_zero.symm)
  case greatest =>
    rw [hunit.greatest]
    exact same_of_value_eq hunit.range.finite_hi Number.isFinite_one
      (hone.trans Number.value_one.symm)
  case again =>
    -- the result spans the unit range itself, where nothing moves
    have hspan' := hunit.range.isFinite_span_of_unit hzero hone
    refine ⟨_, hunit.normalized_eq, dates_mapPresent _ _, fun k => ?_⟩
    rw [valueOn_mapPresent]
    rcases hy : (s.mapPresent (Number.toUnit lo hi)).valueOn k with _ | y
    · exact .inl rfl
    · have hholds := hunit.holds_of_valueOn hy
      exact same_of_value_eq (hunit.range.isFinite_toUnit hspan' hholds) hholds.finite
        (hunit.range.value_toUnit_of_unit hzero hone hholds)

end

lemma Spans.exists_nan (h : s.Spans lo hi) (hspan : Number.isFinite (hi - lo) = false)
    (hx : s.valueOn k = some x) (hhi : (x == hi) = true) :
    ∃ y, (s.mapPresent (Number.toUnit lo hi)).valueOn k = some y ∧ y.isNaN = true := by
  have hholds := h.holds_of_valueOn hx
  rw [Number.beq_iff_value hholds.finite h.range.finite_hi] at hhi
  refine ⟨_, ?_, h.range.isNaN_toUnit_hi hspan hholds hhi⟩
  rw [valueOn_mapPresent, hx, Option.map_some]

/-- **Mapping onto the unit range** does what it says exactly if the span of the values is in the
range of doubles. If it is not, every day that holds the greatest value gets a NaN. -/
theorem normalized_mapsOntoUnit_iff (hs : s.Kept)
    (hfin : ∀ x ∈ s.present, Number.isFinite x = true) (hv : Reshape.normalized s = .ok v) :
    ∃ lo hi t, s.stats.least = some lo ∧ s.stats.greatest = some hi ∧ v = t.asValue ∧
      (s.MapsOntoUnit t lo hi ↔ Number.isFinite (hi - lo) = true) ∧
      (Number.isFinite (hi - lo) = false → ∀ k x, s.valueOn k = some x → (x == hi) = true →
        ∃ y, t.valueOn k = some y ∧ y.isNaN = true) := by
  obtain ⟨lo, hi, hlo, hhi, hlt, rfl⟩ := exists_of_normalized hv
  have h : s.Spans lo hi := (hs.ranged (nanFree_of_finite hfin)).spans hfin hlo hhi hlt
  refine ⟨lo, hi, _, hlo, hhi, rfl, ⟨fun hmaps => ?_, h.mapsOntoUnit⟩,
    fun hspan k x => h.exists_nan hspan⟩
  by_contra hspan
  rw [Bool.not_eq_true] at hspan
  obtain ⟨k, hk⟩ := exists_valueOn h.hi_mem
  obtain ⟨y, hy, hnan⟩ :=
    h.exists_nan hspan hk (Number.beq_self (Number.isNaN_of_isFinite h.range.finite_hi))
  rw [(Number.numbers_of_le (hmaps.bounds k y hy).1).2] at hnan
  cases hnan

/-- The greatest value on the first day, and the least one entered last. -/
def valley : Series := (setValue {
  entries := [⟨(Date.of? 2024 2 28).get Date.isSome_february28, some 3.0⟩,
    ⟨(Date.of? 2024 2 29).get Date.isSome_february29, none⟩,
    ⟨(Date.of? 2024 3 1).get Date.isSome_march1, some 2.0⟩] }
  ((Date.of? 2024 2 29).get Date.isSome_february29) 1.0).1

theorem normalized_mapsOntoUnit_iff_valley : valley.Kept ∧
    (∀ x ∈ valley.present, Number.isFinite x = true) ∧
    ∃ t, Reshape.normalized valley = .ok t.asValue ∧ valley.MapsOntoUnit t 1.0 3.0 := by
  have hkept : valley.Kept := .edited (.computed rfl) (.setValue _ _)
  have hfin : ∀ x ∈ valley.present, Number.isFinite x = true := by decide +kernel
  have hleast : valley.stats.least = some 1.0 := by decide +kernel
  have hgreatest : valley.stats.greatest = some 3.0 := by decide +kernel
  have hlt : ¬ (3.0 : Float) ≤ 1.0 := by decide +kernel
  have hv : Reshape.normalized valley =
      .ok (valley.mapPresent (Number.toUnit 1.0 3.0)).asValue := by
    rw [Reshape.normalized, hleast, hgreatest]
    exact if_neg hlt
  obtain ⟨lo, hi, t, hlo, hhi, ht, hmaps, -⟩ := normalized_mapsOntoUnit_iff hkept hfin hv
  cases hleast.symm.trans hlo
  cases hgreatest.symm.trans hhi
  exact ⟨hkept, hfin, t, hv.trans (congrArg Except.ok ht), hmaps.2 (by decide +kernel)⟩

/-- Two numbers that lie further apart than any double is great. -/
def wide : Series where
  entries := [⟨(Date.of? 2024 2 28).get Date.isSome_february28, some (-1e308)⟩,
    ⟨(Date.of? 2024 2 29).get Date.isSome_february29, some 1e308⟩]

/-- Mapped onto the unit range, the greatest one of them is no number. -/
theorem normalized_out_of_range : wide.Kept ∧ (∀ x ∈ wide.present, Number.isFinite x = true) ∧
    ∃ t, Reshape.normalized wide = .ok t.asValue ∧
      (∃ y, t.valueOn 1 = some y ∧ y.isNaN = true) ∧ ¬ wide.MapsOntoUnit t (-1e308) 1e308 := by
  have hfin : ∀ x ∈ wide.present, Number.isFinite x = true := by decide +kernel
  have hnan : (Number.toUnit (-1e308) 1e308 1e308).isNaN = true := by decide +kernel
  have hlt : ¬ (1e308 : Float) ≤ -1e308 := by decide +kernel
  have hleast : wide.stats.least = some (-1e308) := by decide +kernel
  have hgreatest : wide.stats.greatest = some 1e308 := by decide +kernel
  refine ⟨.computed rfl, hfin, wide.mapPresent (Number.toUnit (-1e308) 1e308), ?_,
    ⟨_, rfl, hnan⟩, fun hmaps => ?_⟩
  · rw [Reshape.normalized, hleast, hgreatest]
    exact if_neg hlt
  · have hnumber := (Number.numbers_of_le (hmaps.bounds 1 _ rfl).1).2
    rw [hnan] at hnumber
    cases hnumber

end Series

end Daybook
