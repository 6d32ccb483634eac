import Daybook.Proofs.Series.Statistics

/-!
Figures that are brought up to date, and figures that are computed anew. A day that gets its first
value is entered by its date and its value alone, while the figures go by the places of the days
on the axis. What follows says exactly when both come to the same, for days in any order and
values that may be NaN.
-/

namespace Daybook

namespace Series

/-- No day in front of the given one has a value. -/
def Leads (s : Series) (day : Date) : Prop :=
  ∀ i ∈ s.indexOf? day, ∀ e ∈ s.entries.take i, e.value = none

/-- No day behind the given one has a value. -/
def Trails (s : Series) (day : Date) : Prop :=
  ∀ i ∈ s.indexOf? day, ∀ e ∈ s.entries.drop (i + 1), e.value = none

instance (s : Series) (day : Date) : Decidable (s.Leads day) :=
  inferInstanceAs (Decidable (∀ i ∈ s.indexOf? day, ∀ e ∈ s.entries.take i, e.value = none))

instance (s : Series) (day : Date) : Decidable (s.Trails day) :=
  inferInstanceAs (Decidable (∀ i ∈ s.indexOf? day, ∀ e ∈ s.entries.drop (i + 1), e.value = none))

variable {s t : Series} {day : Date} {x : Float} {l r : List Entry} {e : Entry}

lemma presentEntries_eq_nil {es : List Entry} :
    presentEntries es = [] ↔ ∀ e ∈ es, e.value = none := by
  simp [presentEntries, List.filter_eq_nil_iff, Entry.isPresent]

lemma presentValues_eq_nil {es : List Entry} : presentValues es = [] ↔ presentEntries es = [] := by
  rw [← List.length_eq_zero_iff, ← List.length_eq_zero_iff, length_presentEntries]

/-! ### A day and what stands around it -/

namespace Splits

variable (h : s.Splits day l e r)

include h

lemma valueAt_eq : s.valueAt day 0 = e.value := by
  simp [valueAt, h.indexOf?_eq, h.entries_eq]

lemma leads_iff : s.Leads day ↔ presentEntries l = [] := by
  simp [Leads, h.indexOf?_eq, h.entries_eq, presentEntries_eq_nil]

lemma trails_iff : s.Trails day ↔ presentEntries r = [] := by
  simp [Trails, h.indexOf?_eq, h.entries_eq, presentEntries_eq_nil]

end Splits

end Series

/-! ### Entering a first value -/

namespace Stats

variable {l r : List Entry} {e : Entry} {x : Float} (he : e.value = none)

include he

lemma count_insert : ((ofEntries (l ++ e :: r)).insert e.day x).count =
    (ofEntries (l ++ { e with value := some x } :: r)).count := by
  simp only [insert, ofEntries_eq, presentEntries_absent he, presentEntries_filled,
    List.length_append, List.length_cons]
  omega

lemma firstDay_absent : (ofEntries (l ++ e :: r)).firstDay =
    (presentEntries l ++ presentEntries r).head?.map (·.day) := by
  rw [ofEntries_eq, presentEntries_absent he]

lemma lastDay_absent : (ofEntries (l ++ e :: r)).lastDay =
    (presentEntries l ++ presentEntries r).getLast?.map (·.day) := by
  rw [ofEntries_eq, presentEntries_absent he]

omit he in
lemma firstDay_filled : (ofEntries (l ++ { e with value := some x } :: r)).firstDay =
    (presentEntries l ++ { e with value := some x } :: presentEntries r).head?.map (·.day) := by
  rw [ofEntries_eq, presentEntries_filled]

omit he in
lemma lastDay_filled : (ofEntries (l ++ { e with value := some x } :: r)).lastDay =
    (presentEntries l ++ { e with value := some x } :: presentEntries r).getLast?.map (·.day) := by
  rw [ofEntries_eq, presentEntries_filled]

lemma firstDay_insert_iff : ((ofEntries (l ++ e :: r)).insert e.day x).firstDay =
      (ofEntries (l ++ { e with value := some x } :: r)).firstDay ↔
    ∀ d, (ofEntries (l ++ e :: r)).firstDay = some d →
      (presentEntries l = [] → e.day ≤ d) ∧ (presentEntries l ≠ [] → d ≤ e.day) := by
  rw [firstDay_filled]
  exact insert_firstDay_iff (e := { e with value := some x }) (firstDay_absent he)

lemma lastDay_insert_iff : ((ofEntries (l ++ e :: r)).insert e.day x).lastDay =
      (ofEntries (l ++ { e with value := some x } :: r)).lastDay ↔
    ∀ d, (ofEntries (l ++ e :: r)).lastDay = some d →
      (presentEntries r = [] → d ≤ e.day) ∧ (presentEntries r ≠ [] → e.day ≤ d) := by
  rw [lastDay_filled]
  exact insert_lastDay_iff (e := { e with value := some x }) (lastDay_absent he)

lemma days_insert (hl : ∀ f ∈ presentEntries l, f.day ≤ e.day)
    (hr : ∀ f ∈ presentEntries r, e.day ≤ f.day) :
    ((ofEntries (l ++ e :: r)).insert e.day x).firstDay =
        (ofEntries (l ++ { e with value := some x } :: r)).firstDay ∧
      ((ofEntries (l ++ e :: r)).insert e.day x).lastDay =
        (ofEntries (l ++ { e with value := some x } :: r)).lastDay := by
  rw [firstDay_filled, lastDay_filled]
  exact ⟨insert_firstDay (e := { e with value := some x }) hl hr (firstDay_absent he),
    insert_lastDay (e := { e with value := some x }) hl hr (lastDay_absent he)⟩

variable (hx : x.isNaN = false)

include hx

lemma least_insert_iff : Same ((ofEntries (l ++ e :: r)).insert e.day x).least
      (ofEntries (l ++ { e with value := some x } :: r)).least ↔
    (presentValues l = [] → ∀ m, (presentValues r).head? = some m → m.isNaN = false) := by
  simp only [insert, ofEntries_eq, presentValues_absent he, presentValues_filled]
  exact picks_lesser.same_foldl_iff hx _ _

lemma greatest_insert_iff : Same ((ofEntries (l ++ e :: r)).insert e.day x).greatest
      (ofEntries (l ++ { e with value := some x } :: r)).greatest ↔
    (presentValues l = [] → ∀ m, (presentValues r).head? = some m → m.isNaN = false) := by
  simp only [insert, ofEntries_eq, presentValues_absent he, presentValues_filled]
  exact picks_greater.same_foldl_iff hx _ _

end Stats

/-! ### Setting a value -/

namespace Series

variable {s t : Series} {day : Date} {x : Float} {l r : List Entry} {e : Entry}

lemma Splits.head?_present (h : s.Splits day l e r) (he : e.value = none)
    (hl : presentValues l = []) : s.present.head? = (presentValues r).head? := by
  have hpresent : s.present = presentValues l ++ presentValues r := by
    rw [← Stats.presentValues_absent he, ← h.entries_eq]
    rfl
  rw [hpresent, hl, List.nil_append]

/-- **Setting a value against computing the figures anew.** The count is always the same. The
first day is, unless the day had no value and its date says something else than its place: it has
to come no later than the first day if no present day precedes it on the axis, and no earlier if
one does. The last day is the other way round. The least and the greatest value are numerically
equal, unless the day had no value, no present day precedes it, and the first present value is a
NaN. So on days that never fall the first and the last day are always the same. -/
theorem setValue_agrees_iff (hs : s.stats = s.recalculate.stats) (hx : x.isNaN = false)
    (h : s.setValue day x = (t, true)) :
    t.stats.count = t.recalculate.stats.count ∧
    (t.stats.firstDay = t.recalculate.stats.firstDay ↔
      (s.valueAt day 0 = none → ∀ d, s.stats.firstDay = some d →
        (s.Leads day → day ≤ d) ∧ (¬ s.Leads day → d ≤ day))) ∧
    (t.stats.lastDay = t.recalculate.stats.lastDay ↔
      (s.valueAt day 0 = none → ∀ d, s.stats.lastDay = some d →
        (s.Trails day → d ≤ day) ∧ (¬ s.Trails day → day ≤ d))) ∧
    (Same t.stats.least t.recalculate.stats.least ↔
      (s.valueAt day 0 = none → s.Leads day → ∀ m, s.present.head? = some m → m.isNaN = false)) ∧
    (Same t.stats.greatest t.recalculate.stats.greatest ↔
      (s.valueAt day 0 = none → s.Leads day → ∀ m, s.present.head? = some m → m.isNaN = false)) ∧
    (s.dates.Pairwise (· ≤ ·) → t.stats.firstDay = t.recalculate.stats.firstDay ∧
      t.stats.lastDay = t.recalculate.stats.lastDay) := by
  have hsets := sets_setValue s day x
  rw [h] at hsets
  cases hsets with
  | @replaced l r e y hsplits hv =>
    -- Everything has been computed anew, and the day had a value.
    have hvalue : s.valueAt day 0 ≠ none := by
      rw [hsplits.valueAt_eq, hv]
      exact Option.some_ne_none y
    exact ⟨rfl, iff_of_true rfl fun hnone => absurd hnone hvalue,
      iff_of_true rfl fun hnone => absurd hnone hvalue,
      iff_of_true (.inl rfl) fun hnone => absurd hnone hvalue,
      iff_of_true (.inl rfl) fun hnone => absurd hnone hvalue, fun _ => ⟨rfl, rfl⟩⟩
  | @filled l r e hsplits hv =>
    -- The old and the new figures are both told from the entries around the day.
    obtain rfl := hsplits.day_eq
    have hold : s.stats = Stats.ofEntries (l ++ e :: r) := by
      rw [hs, ← hsplits.entries_eq]
      rfl
    have hnone : s.valueAt e.day 0 = none := by rw [hsplits.valueAt_eq, hv]
    have hnumber : (s.valueAt e.day 0 = none → s.Leads e.day →
        ∀ m, s.present.head? = some m → m.isNaN = false) ↔
        (presentValues l = [] → ∀ m, (presentValues r).head? = some m → m.isNaN = false) := by
      simp only [hnone, forall_const, hsplits.leads_iff, ← presentValues_eq_nil]
      exact forall_congr' fun hl => by rw [hsplits.head?_present hv hl]
    rw [hnumber]
    simp only [hnone, forall_const, hsplits.leads_iff, hsplits.trails_iff, hold]
    refine ⟨Stats.count_insert hv, Stats.firstDay_insert_iff hv, Stats.lastDay_insert_iff hv,
      Stats.least_insert_iff hv hx, Stats.greatest_insert_iff hv hx, fun hdays => ?_⟩
    obtain ⟨hl, hr⟩ := hsplits.le_of_rising hdays
    exact Stats.days_insert hv hl hr

/-- Days out of order, the last one twice, with a negative zero as the first present value. -/
def shuffled : Series where
  entries := [⟨(Date.of? 2024 2 29).get Date.isSome_february29, none⟩,
    ⟨(Date.of? 2024 2 28).get Date.isSome_february28, none⟩,
    ⟨(Date.of? 2024 3 1).get Date.isSome_march1, some (-0.0)⟩,
    ⟨(Date.of? 2024 3 1).get Date.isSome_march1, some 3.0⟩]

theorem setValue_agrees_iff_shuffled :
    shuffled.stats = shuffled.recalculate.stats ∧ (0.0 : Float).isNaN = false ∧
    ∃ t, shuffled.setValue ((Date.of? 2024 2 29).get Date.isSome_february29) 0.0 = (t, true) ∧
      t.stats.firstDay = t.recalculate.stats.firstDay ∧
      t.stats.lastDay = t.recalculate.stats.lastDay ∧
      Same t.stats.least t.recalculate.stats.least ∧
      Same t.stats.greatest t.recalculate.stats.greatest := by
  have hx : (0.0 : Float).isNaN = false := by decide +kernel
  obtain ⟨t, h⟩ : ∃ t,
      shuffled.setValue ((Date.of? 2024 2 29).get Date.isSome_february29) 0.0 = (t, true) :=
    ⟨_, rfl⟩
  obtain ⟨-, hfirst, hlast, hleast, hgreatest, -⟩ :=
    setValue_agrees_iff (s := shuffled) rfl hx h
  have hnumber : ∀ m, shuffled.present.head? = some m → m.isNaN = false := by decide +kernel
  refine ⟨rfl, hx, t, h, hfirst.2 fun _ => ?_, hlast.2 fun _ => ?_, hleast.2 fun _ _ => hnumber,
    hgreatest.2 fun _ _ => hnumber⟩
  · decide +kernel
  · decide +kernel

/-- The days of a leap February's end, the later one first. -/
def turned : Series where
  entries := [⟨(Date.of? 2024 3 1).get Date.isSome_march1, some 1.0⟩,
    ⟨(Date.of? 2024 2 29).get Date.isSome_february29, none⟩]

/-- A NaN behind a day without a value. -/
def behindGap : Series where
  entries := [⟨(Date.of? 2024 2 28).get Date.isSome_february28, none⟩,
    ⟨(Date.of? 2024 2 29).get Date.isSome_february29, some (0.0 / 0.0)⟩]

/-- Setting a value does not always agree with computing the figures anew. On days that fall the
first and the last day are told apart by their dates and not by their places, and a NaN that was
the first value stays the least and the greatest one. -/
theorem setValue_disagrees :
    (turned.stats = turned.recalculate.stats ∧ (2.0 : Float).isNaN = false ∧
      ∃ t, turned.setValue ((Date.of? 2024 2 29).get Date.isSome_february29) 2.0 = (t, true) ∧
        t.stats.firstDay ≠ t.recalculate.stats.firstDay ∧
        t.stats.lastDay ≠ t.recalculate.stats.lastDay) ∧
    (behindGap.stats = behindGap.recalculate.stats ∧ (5.0 : Float).isNaN = false ∧
      ∃ t, behindGap.setValue ((Date.of? 2024 2 28).get Date.isSome_february28) 5.0 = (t, true) ∧
        ¬ Same t.stats.least t.recalculate.stats.least ∧
        ¬ Same t.stats.greatest t.recalculate.stats.greatest) := by
  have htwo : (2.0 : Float).isNaN = false := by decide +kernel
  have hfive : (5.0 : Float).isNaN = false := by decide +kernel
  have hnan : (0.0 / 0.0 : Float).isNaN = true := by decide +kernel
  have hleast : ¬ Same (Stats.lesser ([0.0 / 0.0].foldl Stats.lesser none) 5.0)
      ([5.0, 0.0 / 0.0].foldl Stats.lesser none) := picks_lesser.not_same_foldl hfive hnan
  have hgreatest : ¬ Same (Stats.greater ([0.0 / 0.0].foldl Stats.greater none) 5.0)
      ([5.0, 0.0 / 0.0].foldl Stats.greater none) := picks_greater.not_same_foldl hfive hnan
  refine ⟨⟨rfl, htwo, _, rfl, ?_, ?_⟩, rfl, hfive, _, rfl, hleast, hgreatest⟩
  · decide +kernel
  · decide +kernel

end Series

end Daybook
