import Daybook.Proofs.Series.Statistics
import Daybook.Summary.Basic

/-!
Running totals. What stands on a day after the values have been summed up in place is the sum of
the series cut off behind that day: the total that the one carries along is what the other comes
to, addition by addition.
-/

namespace Daybook.Series

variable {s : Series} {es : List Entry} {e : Entry} {total : Float} {k n : ℕ}

def cut (s : Series) (n : ℕ) : Series := s.setEntries (s.entries.take n)

lemma present_cut : (s.cut n).present = presentValues (s.entries.take n) := rfl

/-! ### The total that is carried along -/

def carry (total : Float) (es : List Entry) : Float := (presentValues es).foldl (· + ·) total

lemma carry_append (es fs : List Entry) : carry total (es ++ fs) = carry (carry total es) fs := by
  rw [carry, presentValues_append, List.foldl_append]
  rfl

lemma totals_cons : totals total (e :: es) =
    { e with value := some (carry total [e]) } :: totals (carry total [e]) es := by
  rcases hv : e.value with _ | x
  · simp [totals, carry, presentValues, hv]
  · simp [totals, carry, presentValues, hv]

lemma length_totals : (totals total es).length = es.length := by
  induction es generalizing total with
  | nil => rfl
  | cons e es ih => rw [totals_cons, List.length_cons, List.length_cons, ih]

/-- **Every day holds the total of the days up to it.** -/
lemma value_totals (hk : k < es.length) :
    ((totals total es)[k]?).bind (·.value) = some (carry total (es.take (k + 1))) := by
  induction es generalizing total k with
  | nil => exact absurd hk (Nat.not_lt_zero k)
  | cons e es ih =>
    have hcarry : carry total ([e] ++ es.take k) = carry (carry total [e]) (es.take k) :=
      carry_append ..
    rw [totals_cons, List.take_succ_cons, ← List.singleton_append (l := es.take k), hcarry]
    cases k with
    | zero => rfl
    | succ k =>
      rw [List.getElem?_cons_succ]
      exact ih (Nat.lt_of_succ_lt_succ hk)

lemma presentEntries_totals : presentEntries (totals total es) = totals total es := by
  induction es generalizing total with
  | nil => rfl
  | cons e es ih => rw [totals_cons, presentEntries_cons_some rfl, ih]

/-! ### The sum of a series -/

lemma valueOn_accumulate (hk : k < s.length) :
    s.accumulate.valueOn k = some (Summary.total (s.cut (k + 1)).present) :=
  value_totals hk

lemma cut_length : (s.cut s.length).present = s.present := by
  rw [present_cut, length, List.take_length]
  rfl

lemma total_of_absent (h : ∀ j ≤ k, s.valueOn j = none) :
    Summary.total (s.cut (k + 1)).present = 0.0 := by
  have hnone : (s.cut (k + 1)).present = [] := by
    rw [present_cut, presentValues, List.filterMap_eq_nil_iff]
    intro e he
    obtain ⟨j, hj, rfl⟩ := List.mem_take_iff_getElem.1 he
    have hvalue := h j (by omega)
    rwa [valueOn, List.getElem?_eq_getElem (by omega), Option.bind_some] at hvalue
  rw [hnone]
  rfl

/-- **Running totals are sums.** Of a series with days, every day holds, after the values have
been summed up, what the sum function answers for the series cut off behind the day, and zero as
long as no value has come; so the last day holds the sum of all. Every day counts as present then,
and the first and the last day are those of the axis, which stays. -/
theorem accumulate_sums (c : Context) (hs : 0 < s.length) :
    (∀ k < s.length, ∃ x, s.accumulate.valueOn k = some x ∧
      Summary.sum.of c (s.cut (k + 1)) = .ok (.number x)) ∧
    (∀ k < s.length, (∀ j ≤ k, s.valueOn j = none) → s.accumulate.valueOn k = some 0.0) ∧
    (∃ x, s.accumulate.valueOn (s.length - 1) = some x ∧
      Summary.sum.of c s = .ok (.number x)) ∧
    s.accumulate.dates = s.dates ∧
    s.accumulate.stats.count = s.length ∧
    s.accumulate.stats.firstDay = s.dates.head? ∧
    s.accumulate.stats.lastDay = s.dates.getLast? := by
  have hdates : s.accumulate.dates = s.dates := dates_totals _ _
  have hstats : s.accumulate.stats = Stats.ofEntries s.accumulate.entries := rfl
  -- no day of the totals is absent
  have hpresent : presentEntries s.accumulate.entries = s.accumulate.entries :=
    presentEntries_totals
  rw [hstats, Stats.ofEntries_eq, hpresent]
  refine ⟨fun k hk => ⟨_, valueOn_accumulate hk, rfl⟩, fun k hk hnone => ?_, ?_, hdates,
    length_totals, ?_, ?_⟩
  · rw [valueOn_accumulate hk, total_of_absent hnone]
  · refine ⟨_, valueOn_accumulate (by omega), ?_⟩
    rw [Nat.sub_add_cancel hs, cut_length]
    rfl
  · rw [← hdates, dates, List.head?_map]
  · rw [← hdates, dates, List.getLast?_map]

/-- A gap, two values of opposite signs, and an infinity. -/
def climbing : Series where
  entries := [⟨(Date.of? 2024 2 28).get Date.isSome_february28, none⟩,
    ⟨(Date.of? 2024 2 29).get Date.isSome_february29, some (-0.0)⟩,
    ⟨(Date.of? 2024 3 1).get Date.isSome_march1, some (1.0 / 0.0)⟩]

theorem accumulate_sums_climbing : 0 < climbing.length ∧
    climbing.accumulate.valueOn 0 = some 0.0 ∧
    (∃ x, climbing.accumulate.valueOn 2 = some x ∧
      Summary.sum.of {} climbing = .ok (.number x) ∧ x.isInf = true) ∧
    climbing.accumulate.stats.count = 3 := by
  obtain ⟨-, hzero, ⟨x, hlast, hsum⟩, -, hcount, -⟩ :=
    accumulate_sums (s := climbing) {} (by decide)
  refine ⟨by decide, hzero 0 (by decide) fun j hj => ?_, ⟨x, hlast, hsum, ?_⟩, hcount⟩
  · obtain rfl : j = 0 := Nat.le_zero.1 hj
    rfl
  · obtain rfl : Summary.total climbing.present = x := by
      cases hsum
      rfl
    decide +kernel

end Daybook.Series
