import Mathlib.Data.List.Basic
import Daybook.Calendar.Date

/-!
The order of days. The day after a day has the next number, so that days in a row rise.
-/

namespace Daybook

lemma div_succ (n d : ℕ) : (n + 1) / d = n / d + if (n + 1) % d = 0 then 1 else 0 := by
  rw [Nat.succ_div]
  simp only [Nat.dvd_iff_mod_eq_zero]

lemma daysBeforeYear_succ {y : ℕ} (h : 1 ≤ y) :
    daysBeforeYear (y + 1) = daysBeforeYear y + yearLength y := by
  obtain ⟨p, rfl⟩ := Nat.exists_eq_add_of_le' h
  have hle : p / 100 ≤ p / 4 := Nat.div_le_div_left (by omega) (by omega)
  have h100 : (p + 1) % 100 = 0 → (p + 1) % 4 = 0 := by omega
  have h400 : (p + 1) % 400 = 0 → (p + 1) % 100 = 0 := by omega
  simp only [daysBeforeYear, yearLength, isLeap, Nat.add_sub_cancel, div_succ]
  generalize p / 4 = a at *
  generalize p / 100 = b at *
  by_cases h4 : (p + 1) % 4 = 0
  · by_cases hc : (p + 1) % 100 = 0
    · by_cases hd : (p + 1) % 400 = 0 <;> simp [h4, hc, hd] <;> omega
    · have hd : (p + 1) % 400 ≠ 0 := fun hd => hc (h400 hd)
      simp [h4, hc, hd]
      omega
  · have hc : (p + 1) % 100 ≠ 0 := fun hc => h4 (h100 hc)
    have hd : (p + 1) % 400 ≠ 0 := fun hd => hc (h400 hd)
    simp [h4, hc, hd]
    omega

lemma daysBeforeMonth_december (y : ℕ) :
    daysBeforeMonth y 12 + monthLength y 12 = yearLength y := by
  simp only [daysBeforeMonth, monthLength, yearLength]
  split <;> rfl

lemma daysBeforeMonth_succ {y m : ℕ} (h : 1 ≤ m) :
    daysBeforeMonth y (m + 1) = daysBeforeMonth y m + monthLength y m := by
  obtain ⟨k, rfl⟩ := Nat.exists_eq_add_of_le' h
  rfl

namespace Date

variable {d e : Date}

lemma lt_iff : d < e ↔ d.ordinal < e.ordinal := Iff.rfl

lemma ordinal_of_next? (h : d.next? = some e) : e.ordinal = d.ordinal + 1 := by
  have hday := d.day_le
  rw [next?] at h
  split at h
  · cases h
    simp only [ordinal]
    omega
  · split at h
    · cases h
      simp only [ordinal, daysBeforeMonth_succ d.month_pos]
      omega
    · split at h
      · cases h
        have hm : d.month = 12 := by
          have := d.month_le
          omega
        have hy := daysBeforeMonth_december d.year
        rw [← hm] at hy
        simp only [ordinal, daysBeforeYear_succ d.year_pos, daysBeforeMonth]
        omega
      · cases h

lemma ordinal_le_of_mem_run {n : ℕ} (h : e ∈ d.run n) : d.ordinal ≤ e.ordinal := by
  induction n generalizing d with
  | zero => cases h
  | succ n ih =>
    rw [run] at h
    rcases List.mem_cons.1 h with rfl | h
    · exact Nat.le_refl _
    · split at h
      · rename_i f hf
        have := ordinal_of_next? hf
        have := ih h
        omega
      · cases h

lemma pairwise_run (d : Date) (n : ℕ) : (d.run n).Pairwise (· < ·) := by
  induction n generalizing d with
  | zero => exact .nil
  | succ n ih =>
    rw [run]
    split
    · rename_i f hf
      refine List.pairwise_cons.2 ⟨fun e he => ?_, ih f⟩
      have := ordinal_of_next? hf
      have := ordinal_le_of_mem_run he
      rw [lt_iff]
      omega
    · exact List.pairwise_singleton _ _

lemma pairwise_range (a b : Date) : (range a b).Pairwise (· < ·) := pairwise_run _ _

end Date

/-! ### Days around the end of a February of twenty-nine days -/

lemma Date.isSome_february28 : (Date.of? 2024 2 28).isSome = true := by decide

lemma Date.isSome_february29 : (Date.of? 2024 2 29).isSome = true := by decide

lemma Date.isSome_march1 : (Date.of? 2024 3 1).isSome = true := by decide

end Daybook
