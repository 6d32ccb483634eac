import Mathlib.Data.List.Chain
import Daybook.Proofs.Calendar.Order
import Daybook.Registry

/-!
The days of a range. The numbers of the days are a numbering without gaps: a day is known by its
number, and every day but the last one of the calendar has a day after it. So the days from one
day to another are all days between the two, each at the place that its number tells.
-/

namespace Daybook

/-! ### Years and months in the numbering -/

lemma daysBeforeMonth_mono (y : ℕ) {m n : ℕ} (hm : 1 ≤ m) (h : m ≤ n) :
    daysBeforeMonth y m ≤ daysBeforeMonth y n := by
  induction h with
  | refl => exact Nat.le_refl _
  | @step n h ih =>
    rw [daysBeforeMonth_succ (Nat.le_trans hm h)]
    omega

lemma daysBeforeYear_mono {x y : ℕ} (hx : 1 ≤ x) (h : x ≤ y) :
    daysBeforeYear x ≤ daysBeforeYear y := by
  induction h with
  | refl => exact Nat.le_refl _
  | @step y h ih =>
    rw [daysBeforeYear_succ (Nat.le_trans hx h)]
    omega

namespace Date

variable {a b d e : Date} {n : ℕ}

lemma le_iff : d ≤ e ↔ d.ordinal ≤ e.ordinal := Iff.rfl

lemma day_in_year (d : Date) : 0 < daysBeforeMonth d.year d.month + d.day ∧
    daysBeforeMonth d.year d.month + d.day ≤ yearLength d.year := by
  have hday := d.day_pos
  have hday' := d.day_le
  have hmonth := daysBeforeMonth_mono d.year (m := d.month + 1) (by omega)
    (Nat.succ_le_succ d.month_le)
  rw [daysBeforeMonth_succ d.month_pos, daysBeforeMonth_succ (by omega),
    daysBeforeMonth_december] at hmonth
  omega

lemma ordinal_lt_of_year_lt (h : d.year < e.year) : d.ordinal < e.ordinal := by
  have hd := d.day_in_year
  have he := e.day_in_year
  have hyear := daysBeforeYear_mono (x := d.year + 1) (by omega) h
  rw [daysBeforeYear_succ d.year_pos] at hyear
  simp only [ordinal]
  omega

lemma ordinal_lt_of_month_lt (hy : d.year = e.year) (h : d.month < e.month) :
    d.ordinal < e.ordinal := by
  have hd := d.day_le
  have he := e.day_pos
  have hmonth := daysBeforeMonth_mono d.year (m := d.month + 1) (by omega) h
  rw [daysBeforeMonth_succ d.month_pos] at hmonth
  simp only [ordinal, ← hy]
  omega

/-- **A day is known by its number.** -/
theorem ordinal_injective (h : d.ordinal = e.ordinal) : d = e := by
  have hyear : d.year = e.year := by
    rcases Nat.lt_trichotomy d.year e.year with hlt | heq | hlt
    · exact absurd h (Nat.ne_of_lt (ordinal_lt_of_year_lt hlt))
    · exact heq
    · exact absurd h (Nat.ne_of_gt (ordinal_lt_of_year_lt hlt))
  have hmonth : d.month = e.month := by
    rcases Nat.lt_trichotomy d.month e.month with hlt | heq | hlt
    · exact absurd h (Nat.ne_of_lt (ordinal_lt_of_month_lt hyear hlt))
    · exact heq
    · exact absurd h (Nat.ne_of_gt (ordinal_lt_of_month_lt hyear.symm hlt))
  have hday : d.day = e.day := by
    simp only [ordinal, hyear, hmonth] at h
    omega
  cases d
  cases e
  simp_all

lemma eq_of_not_lt_iff : (¬ d < e → e = d) ↔ d ≤ e := by
  constructor
  · intro h
    by_cases hlt : d < e
    · exact Nat.le_of_lt hlt
    · rw [h hlt]
      exact Nat.le_refl _
  · exact fun hle hlt => ordinal_injective (Nat.le_antisymm (Nat.le_of_not_lt hlt) hle)

lemma eq_of_lt_iff : (d < e → d = e) ↔ e ≤ d := by
  constructor
  · intro h
    by_contra hle
    have hlt : d < e := Nat.lt_of_not_le hle
    rw [h hlt] at hlt
    exact Nat.lt_irrefl _ hlt
  · exact fun hle hlt => absurd hlt (Nat.not_lt_of_le hle)

lemma ordinal_le_of_next?_eq_none (h : d.next? = none) (e : Date) : e.ordinal ≤ d.ordinal := by
  rw [next?] at h
  split at h
  · cases h
  · split at h
    · cases h
    · split at h
      · cases h
      · rename_i hday hmonth hyear
        -- only the last day of the calendar has no day behind it
        have hy : d.year = 9999 := by
          have := d.year_le
          omega
        have hm : d.month = 12 := by
          have := d.month_le
          omega
        have hend : daysBeforeMonth d.year d.month + d.day = yearLength d.year := by
          have := d.day_le
          rw [← daysBeforeMonth_december, ← hm]
          omega
        have he := e.day_in_year
        have hle := daysBeforeYear_mono (x := e.year + 1) (y := 10000) (by omega)
          (Nat.succ_le_succ e.year_le)
        rw [daysBeforeYear_succ e.year_pos, daysBeforeYear_succ (y := 9999) (by decide)] at hle
        simp only [ordinal]
        rw [hy] at hend ⊢
        omega

/-! ### Days in a row -/

lemma run_succ (h : d.next? = some e) : d.run (n + 1) = d :: e.run n := by
  rw [run, h]

lemma exists_next? (h : d < e) : ∃ f, d.next? = some f ∧ f.ordinal = d.ordinal + 1 := by
  rcases hn : d.next? with _ | f
  · exact absurd (ordinal_le_of_next?_eq_none hn e) (Nat.not_le.2 h)
  · exact ⟨f, rfl, ordinal_of_next? hn⟩

lemma mem_run : e ∈ d.run n ↔ d.ordinal ≤ e.ordinal ∧ e.ordinal < d.ordinal + n := by
  induction n generalizing d with
  | zero =>
    simp only [run, List.not_mem_nil, false_iff]
    omega
  | succ n ih =>
    rcases Nat.lt_trichotomy d.ordinal e.ordinal with hlt | heq | hgt
    · obtain ⟨f, hf, hord⟩ := exists_next? hlt
      have hne : e ≠ d := by
        rintro rfl
        omega
      rw [run_succ hf, List.mem_cons, or_iff_right hne, ih]
      omega
    · rw [ordinal_injective heq, run, List.mem_cons]
      exact iff_of_true (.inl rfl) (by omega)
    · refine iff_of_false (fun h => ?_) (by omega)
      have := ordinal_le_of_mem_run h
      omega

lemma length_run (h : d.ordinal + n ≤ e.ordinal + 1) : (d.run n).length = n := by
  induction n generalizing d with
  | zero => rfl
  | succ n ih =>
    cases n with
    | zero => rw [run]; cases d.next? <;> rfl
    | succ n =>
      obtain ⟨f, hf, hord⟩ := exists_next? (d := d) (e := e) (by rw [lt_iff]; omega)
      rw [run_succ hf, List.length_cons, ih (by omega)]

lemma isChain_run (d : Date) (n : ℕ) : (d.run n).IsChain fun d e => d.next? = some e := by
  induction n generalizing d with
  | zero => exact .nil
  | succ n ih =>
    rcases hn : d.next? with _ | e
    · rw [run, hn]
      exact .singleton d
    · rw [run_succ hn]
      cases n with
      | zero => exact .singleton d
      | succ n =>
        have h := ih e
        rw [run] at h ⊢
        exact .cons_cons hn h

lemma ordinal_getElem_run {i : ℕ} (h : i < (d.run n).length) :
    ((d.run n)[i]).ordinal = d.ordinal + i := by
  induction n generalizing d i with
  | zero => cases h
  | succ n ih =>
    cases i with
    | zero => rfl
    | succ i =>
      rcases hn : d.next? with _ | e
      · simp [run, hn] at h
      · have hord := ordinal_of_next? hn
        simp only [run_succ hn, List.length_cons, Nat.add_lt_add_iff_right] at h
        simp only [run_succ hn, List.getElem_cons_succ, ih h]
        omega

/-! ### The days from one to another -/

lemma mem_range : d ∈ range a b ↔ a ≤ d ∧ d ≤ b := by
  rw [range, mem_run, le_iff, le_iff]
  omega

lemma length_range (h : a ≤ b) : (range a b).length = b.ordinal - a.ordinal + 1 := by
  have h' : a.ordinal ≤ b.ordinal := h
  rw [range, length_run (e := b) (by omega)]
  omega

lemma idxOf?_range (ha : a ≤ d) (hb : d ≤ b) :
    (range a b).idxOf? d = some (d.ordinal - a.ordinal) := by
  have hle : a.ordinal ≤ d.ordinal := ha
  have hplace : ∀ {i : ℕ} (hi : i < (range a b).length), (range a b)[i] = d →
      d.ordinal = a.ordinal + i := by
    rintro i hi rfl
    exact ordinal_getElem_run hi
  obtain ⟨i, hi, hd⟩ := List.getElem_of_mem (mem_range.2 ⟨ha, hb⟩)
  have hord := hplace hi hd
  rw [List.idxOf?_eq_some_iff, show d.ordinal - a.ordinal = i by omega]
  refine ⟨hi, hd, fun j hj h => ?_⟩
  have := hplace (Nat.lt_trans hj hi) h
  omega

end Date

end Daybook
