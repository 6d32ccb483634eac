import Daybook.Proofs.Calendar.Order
import Daybook.Proofs.Series.Days
import Daybook.Proofs.Series.Edits

/-!
Reading a series after writing into it. A day stands for the first place that it has on the axis.
A reading goes a number of places on from there and comes to nothing where the axis ends. What has
been written is read from exactly the days and shifts that lead to its place.
-/

namespace Daybook.Series

variable {s t : Series} {d e : Date} {i j k : ℕ} {shift : Int} {x : Float}

/-! ### Reading -/

lemma valueOn_of_length_le (h : s.length ≤ k) : s.valueOn k = none := by
  rw [valueOn, List.getElem?_eq_none h]
  rfl

lemma valueAt_of_not_mem (h : e ∉ s.dates) : s.valueAt e shift = none := by
  have hi : s.indexOf? e = none := List.idxOf?_eq_none_iff.2 h
  rw [valueAt, hi]

lemma valueAt_of_indexOf? (h : s.indexOf? e = some i) :
    s.valueAt e shift = if 0 ≤ i + shift then s.valueOn (i + shift).toNat else none := by
  rw [valueAt, h]
  rfl

lemma valueAt_of_outside (h : s.indexOf? e = some i) (hout : i + shift < 0 ∨ s.length ≤ i + shift) :
    s.valueAt e shift = none := by
  rw [valueAt_of_indexOf? h]
  rcases hout with hneg | hpast
  · exact if_neg (by omega)
  · rw [if_pos (by omega), valueOn_of_length_le (by omega)]

/-! ### Writing -/

/-- On a day of the axis a value is written, whether the day had one or not. It stands at the
first place of the day, and all other places and everything else about the series stay. -/
lemma exists_setValue (h : s.indexOf? d = some j) (x : Float) :
    ∃ t, s.setValue d x = (t, true) ∧ t = { s with entries := t.entries, stats := t.stats } ∧
      t.dates = s.dates ∧ ∀ k, t.valueOn k = if k = j then some x else s.valueOn k := by
  have hsets := sets_setValue s d x
  have hdates := (Edited.setValue (s := s) d x).dates_eq
  -- only the place that is set and the dates are needed of the new series
  generalize s.setValue d x = p at hsets hdates ⊢
  have hplaces : ∀ {l r : List Entry} {a : Entry}, s.Splits d l a r → ∀ k,
      ((l ++ { a with value := some x } :: r)[k]?).bind (·.value) =
        if k = j then some x else s.valueOn k := by
    intro l r a hsplits k
    obtain rfl : l.length = j := Option.some.inj (hsplits.indexOf?_eq.symm.trans h)
    have hset : l ++ { a with value := some x } :: r =
        s.entries.set l.length { a with value := some x } := by simp [hsplits.entries_eq]
    have hlt : l.length < s.entries.length := by simp [hsplits.entries_eq]
    rw [hset, List.getElem?_set, if_pos hlt]
    by_cases hk : l.length = k
    · rw [if_pos hk, if_pos hk.symm]
      rfl
    · rw [if_neg hk, if_neg (Ne.symm hk), valueOn]
  cases hsets with
  | foreign hmem =>
    rw [indexOf?, List.idxOf?_eq_none_iff.2 hmem] at h
    cases h
  | replaced hsplits => exact ⟨_, rfl, rfl, hdates, hplaces hsplits⟩
  | filled hsplits => exact ⟨_, rfl, rfl, hdates, hplaces hsplits⟩

/-- **Reading over writing.** On a day that is not on the axis nothing is written. On any other
day the value is written, and nothing changes but values and figures: afterwards the value is read
from every day and shift that lead to the place of the day, and from all others what was read
before. A reading that starts from a foreign day or leads past either end of the axis comes to
nothing. -/
theorem valueAt_setValue (s : Series) (d : Date) (x : Float) :
    (d ∉ s.dates → s.setValue d x = (s, false)) ∧
    (d ∈ s.dates → ∃ j t, s.indexOf? d = some j ∧ s.setValue d x = (t, true) ∧
      t = { s with entries := t.entries, stats := t.stats } ∧ t.dates = s.dates ∧
      ∀ e shift, t.valueAt e shift =
        if (s.indexOf? e).map (fun i : ℕ => (i : Int) + shift) = some (j : Int) then some x
        else s.valueAt e shift) ∧
    ∀ e shift, (e ∉ s.dates → s.valueAt e shift = none) ∧
      ∀ i, s.indexOf? e = some i → i + shift < 0 ∨ s.length ≤ i + shift →
        s.valueAt e shift = none := by
  refine ⟨fun hd => ?_, fun hd => ?_, fun e shift => ⟨valueAt_of_not_mem, fun i hi hout =>
    valueAt_of_outside hi hout⟩⟩
  · rw [setValue, indexOf?, List.idxOf?_eq_none_iff.2 hd]
  obtain ⟨j, hj⟩ : ∃ j, s.indexOf? d = some j :=
    Option.ne_none_iff_exists'.1 fun hnone => List.idxOf?_eq_none_iff.1 hnone hd
  obtain ⟨t, ht, hframe, hdates, hvalues⟩ := exists_setValue hj x
  refine ⟨j, t, hj, ht, hframe, hdates, fun e shift => ?_⟩
  -- the days stay, so every day keeps its place
  have hindex : t.indexOf? e = s.indexOf? e := by rw [indexOf?, hdates, indexOf?]
  rcases hi : s.indexOf? e with _ | i
  · rw [if_neg (by simp), valueAt_of_not_mem (List.idxOf?_eq_none_iff.1 hi),
      valueAt_of_not_mem (List.idxOf?_eq_none_iff.1 (hindex.trans hi))]
  rw [valueAt_of_indexOf? hi, valueAt_of_indexOf? (hindex.trans hi)]
  simp only [Option.map_some, Option.some_inj]
  by_cases hnonneg : 0 ≤ (i : Int) + shift
  · have hplace : ((i : Int) + shift).toNat = j ↔ (i : Int) + shift = j := by omega
    rw [if_pos hnonneg, if_pos hnonneg, hvalues]
    simp only [hplace]
  · rw [if_neg hnonneg, if_neg hnonneg, if_neg (by omega)]

/-- The last day of a leap February, the day after it, and the first of both again. -/
def revisited : Series where
  entries := [⟨(Date.of? 2024 2 29).get Date.isSome_february29, some 1.0⟩,
    ⟨(Date.of? 2024 3 1).get Date.isSome_march1, none⟩,
    ⟨(Date.of? 2024 2 29).get Date.isSome_february29, some 3.0⟩]

theorem valueAt_setValue_revisited : ∃ t,
    revisited.setValue ((Date.of? 2024 3 1).get Date.isSome_march1) 2.0 = (t, true) ∧
      t.valueAt ((Date.of? 2024 2 29).get Date.isSome_february29) 1 = some 2.0 ∧
      t.valueAt ((Date.of? 2024 2 29).get Date.isSome_february29) 2 = some 3.0 ∧
      t.valueAt ((Date.of? 2024 2 29).get Date.isSome_february29) (-1) = none := by
  obtain ⟨-, hwrite, -⟩ :=
    valueAt_setValue revisited ((Date.of? 2024 3 1).get Date.isSome_march1) 2.0
  obtain ⟨j, t, hj, ht, -, -, hread⟩ := hwrite (by decide +kernel)
  obtain rfl : 1 = j := Option.some.inj ((by decide +kernel : _ = some 1).symm.trans hj)
  refine ⟨t, ht, ?_, ?_, ?_⟩ <;> rw [hread] <;> decide +kernel

end Daybook.Series
