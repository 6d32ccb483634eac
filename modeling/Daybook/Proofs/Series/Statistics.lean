import Mathlib.Data.List.Induction
import Daybook.Proofs.Calendar.Range
import Daybook.Proofs.Series.Days
import Daybook.Proofs.Series.Edits
import Daybook.Proofs.Series.Extremes

/-!
The figures of a series. They belong to its values where they are computed anew, and they still
do where they are brought up to date, as long as the days rise and every value is a number.
-/

namespace Daybook

def presentEntries (es : List Entry) : List Entry := es.filter (·.isPresent)

def presentValues (es : List Entry) : List Float := es.filterMap (·.value)

/-- **The invariant of the figures**: they count the present values, name the first and the last
day that has one, and hold one that is below and one that is above all others. Nothing is held
where nothing is present. -/
structure Stats.Describes (t : Stats) (es : List Entry) : Prop where
  count : t.count = (presentEntries es).length
  firstDay : t.firstDay = (presentEntries es).head?.map (·.day)
  lastDay : t.lastDay = (presentEntries es).getLast?.map (·.day)
  least : ∀ m, t.least = some m → m ∈ presentValues es ∧ ∀ x ∈ presentValues es, m ≤ x
  greatest : ∀ m, t.greatest = some m → m ∈ presentValues es ∧ ∀ x ∈ presentValues es, x ≤ m
  least_none : t.least = none ↔ t.count = 0
  greatest_none : t.greatest = none ↔ t.count = 0
  firstDay_none : t.firstDay = none ↔ t.count = 0
  lastDay_none : t.lastDay = none ↔ t.count = 0

def NaNFree (es : List Entry) : Prop := ∀ x ∈ presentValues es, x.isNaN = false

variable {es fs : List Entry} {e : Entry} {t : Stats} {x : Float}

@[simp] lemma presentEntries_append :
    presentEntries (es ++ fs) = presentEntries es ++ presentEntries fs := List.filter_append ..

@[simp] lemma presentValues_append :
    presentValues (es ++ fs) = presentValues es ++ presentValues fs := List.filterMap_append

lemma presentEntries_cons_some (h : e.value = some x) :
    presentEntries (e :: es) = e :: presentEntries es := by
  simp [presentEntries, Entry.isPresent, h]

lemma presentEntries_cons_none (h : e.value = none) :
    presentEntries (e :: es) = presentEntries es := by
  simp [presentEntries, Entry.isPresent, h]

lemma presentValues_cons_some (h : e.value = some x) :
    presentValues (e :: es) = x :: presentValues es := by
  simp [presentValues, h]

lemma presentValues_cons_none (h : e.value = none) :
    presentValues (e :: es) = presentValues es := by
  simp [presentValues, h]

lemma length_presentEntries : (presentEntries es).length = (presentValues es).length := by
  induction es with
  | nil => rfl
  | cons e es ih =>
    rcases hv : e.value with _ | x
    · rw [presentEntries_cons_none hv, presentValues_cons_none hv, ih]
    · rw [presentEntries_cons_some hv, presentValues_cons_some hv, List.length_cons,
        List.length_cons, ih]

namespace Stats

lemma describes_of (hc : t.count = (presentEntries es).length)
    (hf : t.firstDay = (presentEntries es).head?.map (·.day))
    (hl : t.lastDay = (presentEntries es).getLast?.map (·.day))
    (hleast : Extreme (· ≤ ·) (presentValues es) t.least)
    (hgreatest : Extreme (fun m x => x ≤ m) (presentValues es) t.greatest) : t.Describes es where
  count := hc
  firstDay := hf
  lastDay := hl
  least m hm := by
    rw [hm] at hleast
    exact ⟨hleast.mem, hleast.forall_mem⟩
  greatest m hm := by
    rw [hm] at hgreatest
    exact ⟨hgreatest.mem, hgreatest.forall_mem⟩
  least_none := by
    rw [hleast.none_iff, hc, length_presentEntries, List.length_eq_zero_iff]
  greatest_none := by
    rw [hgreatest.none_iff, hc, length_presentEntries, List.length_eq_zero_iff]
  firstDay_none := by
    rw [hf, hc, Option.map_eq_none_iff, List.head?_eq_none_iff, List.length_eq_zero_iff]
  lastDay_none := by
    rw [hl, hc, Option.map_eq_none_iff, List.getLast?_eq_none_iff, List.length_eq_zero_iff]

namespace Describes

variable (h : t.Describes es)

include h

lemma presentValues_eq_nil (hc : t.count = 0) : presentValues es = [] := by
  rw [← List.length_eq_zero_iff, ← length_presentEntries, ← h.count, hc]

lemma extreme_least : Extreme (· ≤ ·) (presentValues es) t.least := by
  rcases hl : t.least with _ | m
  · exact .inl ⟨rfl, h.presentValues_eq_nil (h.least_none.1 hl)⟩
  · exact .inr ⟨m, rfl, h.least m hl⟩

lemma extreme_greatest : Extreme (fun m x => x ≤ m) (presentValues es) t.greatest := by
  rcases hg : t.greatest with _ | m
  · exact .inl ⟨rfl, h.presentValues_eq_nil (h.greatest_none.1 hg)⟩
  · exact .inr ⟨m, rfl, h.greatest m hg⟩

end Describes

/-! ### Computing the figures anew -/

lemma ofEntries_eq (es : List Entry) : ofEntries es = {
    least := (presentValues es).foldl lesser none
    greatest := (presentValues es).foldl greater none
    firstDay := (presentEntries es).head?.map (·.day)
    lastDay := (presentEntries es).getLast?.map (·.day)
    count := (presentEntries es).length } := by
  induction es using List.reverseRecOn with
  | nil => rfl
  | append_singleton es e ih =>
    have hstep : ofEntries (es ++ [e]) = (ofEntries es).push e := by
      rw [ofEntries, List.foldl_append]
      rfl
    rw [hstep, ih, presentEntries_append, presentValues_append]
    rcases hv : e.value with _ | x
    · rw [presentEntries_cons_none hv, presentValues_cons_none hv]
      simp [push, hv, presentEntries, presentValues]
    · rw [presentEntries_cons_some hv, presentValues_cons_some hv]
      simp [push, hv, presentEntries, presentValues, List.head?_append]

lemma describes_ofEntries (hn : NaNFree es) : (ofEntries es).Describes es := by
  rw [ofEntries_eq]
  exact describes_of rfl rfl rfl (picks_lesser.extreme_foldl_of_numbers hn)
    (picks_greater.extreme_foldl_of_numbers hn)

/-! ### Bringing the figures up to date -/

section

variable {l r : List Entry}

lemma presentEntries_absent (he : e.value = none) :
    presentEntries (l ++ e :: r) = presentEntries l ++ presentEntries r := by
  rw [presentEntries_append, presentEntries_cons_none he]

lemma presentEntries_filled : presentEntries (l ++ { e with value := some x } :: r) =
    presentEntries l ++ { e with value := some x } :: presentEntries r := by
  rw [presentEntries_append, presentEntries_cons_some rfl]

lemma presentValues_absent (he : e.value = none) :
    presentValues (l ++ e :: r) = presentValues l ++ presentValues r := by
  rw [presentValues_append, presentValues_cons_none he]

lemma presentValues_filled : presentValues (l ++ { e with value := some x } :: r) =
    presentValues l ++ x :: presentValues r := by
  rw [presentValues_append, presentValues_cons_some rfl]

lemma mem_presentValues_filled (he : e.value = none) (y : Float) :
    y ∈ presentValues (l ++ { e with value := some x } :: r) ↔
      y = x ∨ y ∈ presentValues (l ++ e :: r) := by
  rw [presentValues_absent he, presentValues_filled]
  simp only [List.mem_append, List.mem_cons]
  tauto

end

section

variable {p q : List Entry}

/-- The day that is entered becomes the first one by its date, and it is the first one by its
place if no present day precedes it: when these agree. -/
lemma insert_firstDay_iff (ht : t.firstDay = (p ++ q).head?.map (·.day)) :
    (t.insert e.day x).firstDay = (p ++ e :: q).head?.map (·.day) ↔
      ∀ d, t.firstDay = some d → (p = [] → e.day ≤ d) ∧ (p ≠ [] → d ≤ e.day) := by
  rcases p with _ | ⟨f, p⟩
  · rcases q with _ | ⟨f, q⟩
    · simp [insert, ht]
    · have hf : t.firstDay = some f.day := ht
      have hnew : (t.insert e.day x).firstDay = some e.day ↔ e.day ≤ f.day := by
        simp only [insert, hf]
        rw [ite_eq_left_iff, Option.some_inj, Date.eq_of_not_lt_iff]
      simpa [hf] using hnew
  · have hf : t.firstDay = some f.day := ht
    have hnew : (t.insert e.day x).firstDay = some f.day ↔ f.day ≤ e.day := by
      simp only [insert, hf]
      rw [ite_eq_right_iff, Option.some_inj, Date.eq_of_lt_iff]
    simpa [hf] using hnew

lemma insert_lastDay_iff (ht : t.lastDay = (p ++ q).getLast?.map (·.day)) :
    (t.insert e.day x).lastDay = (p ++ e :: q).getLast?.map (·.day) ↔
      ∀ d, t.lastDay = some d → (q = [] → d ≤ e.day) ∧ (q ≠ [] → e.day ≤ d) := by
  rcases List.eq_nil_or_concat' q with rfl | ⟨q, f, rfl⟩
  · rcases List.eq_nil_or_concat' p with rfl | ⟨p, f, rfl⟩
    · simp [insert, ht]
    · have hf : t.lastDay = some f.day := by simpa using ht
      have hnew : (t.insert e.day x).lastDay = some e.day ↔ f.day ≤ e.day := by
        simp only [insert, hf]
        rw [ite_eq_left_iff, Option.some_inj, eq_comm, Date.eq_of_not_lt_iff]
      simpa [hf] using hnew
  · have hf : t.lastDay = some f.day := by simpa using ht
    have hnew : (t.insert e.day x).lastDay = some f.day ↔ e.day ≤ f.day := by
      simp only [insert, hf]
      rw [ite_eq_right_iff, Option.some_inj, eq_comm, Date.eq_of_lt_iff]
    simpa [hf, List.getLast?_cons] using hnew

variable (hp : ∀ f ∈ p, f.day ≤ e.day) (hq : ∀ f ∈ q, e.day ≤ f.day)

include hp hq

lemma insert_firstDay (ht : t.firstDay = (p ++ q).head?.map (·.day)) :
    (t.insert e.day x).firstDay = (p ++ e :: q).head?.map (·.day) := by
  refine (insert_firstDay_iff ht).2 fun d hd => ?_
  obtain ⟨f, hf, rfl⟩ := Option.map_eq_some_iff.1 (ht.symm.trans hd)
  rcases p with _ | ⟨g, p⟩
  · exact ⟨fun _ => hq f (List.mem_of_head? hf), fun h => absurd rfl h⟩
  · cases hf
    exact ⟨nofun, fun _ => hp f List.mem_cons_self⟩

lemma insert_lastDay (ht : t.lastDay = (p ++ q).getLast?.map (·.day)) :
    (t.insert e.day x).lastDay = (p ++ e :: q).getLast?.map (·.day) := by
  refine (insert_lastDay_iff ht).2 fun d hd => ?_
  obtain ⟨f, hf, rfl⟩ := Option.map_eq_some_iff.1 (ht.symm.trans hd)
  rcases List.eq_nil_or_concat' q with rfl | ⟨q, g, rfl⟩
  · rw [List.append_nil] at hf
    exact ⟨fun _ => hp f (List.mem_of_getLast? hf), fun h => absurd rfl h⟩
  · have hgf : g = f := by simpa using hf
    exact ⟨fun h => by simp at h, fun _ => hq f (by simp [hgf])⟩

end

lemma describes_insert {l r : List Entry} (h : t.Describes (l ++ e :: r)) (he : e.value = none)
    (hl : ∀ f ∈ presentEntries l, f.day ≤ e.day) (hr : ∀ f ∈ presentEntries r, e.day ≤ f.day)
    (hn : NaNFree (l ++ { e with value := some x } :: r)) :
    (t.insert e.day x).Describes (l ++ { e with value := some x } :: r) := by
  have hfirst := h.firstDay
  have hlast := h.lastDay
  rw [presentEntries_absent he] at hfirst hlast
  have hvalues := mem_presentValues_filled (l := l) (r := r) (x := x) he
  refine describes_of ?_ ?_ ?_ (picks_lesser.insert h.extreme_least hn hvalues)
    (picks_greater.insert h.extreme_greatest hn hvalues)
  · rw [presentEntries_filled, insert, h.count, presentEntries_absent he]
    simp
    omega
  · rw [presentEntries_filled]
    exact insert_firstDay (e := { e with value := some x }) hl hr hfirst
  · rw [presentEntries_filled]
    exact insert_lastDay (e := { e with value := some x }) hl hr hlast

end Stats

/-! ### Changes of a series -/

namespace Series

variable {s u : Series} {day : Date}

lemma Splits.le_of_rising {l r : List Entry} (h : s.Splits day l e r)
    (hdays : s.dates.Pairwise (· ≤ ·)) :
    (∀ f ∈ presentEntries l, f.day ≤ e.day) ∧ ∀ f ∈ presentEntries r, e.day ≤ f.day := by
  rw [dates, h.entries_eq, List.map_append, List.map_cons, List.pairwise_append,
    List.pairwise_cons] at hdays
  obtain ⟨-, ⟨hr, -⟩, hl⟩ := hdays
  constructor
  · intro f hf
    exact hl f.day (List.mem_map_of_mem (List.mem_filter.1 hf).1) e.day List.mem_cons_self
  · intro f hf
    exact hr f.day (List.mem_map_of_mem (List.mem_filter.1 hf).1)

/-- **Every change keeps the figures in order.** -/
lemma Edited.describes (h : s.Edited u) (hs : s.stats.Describes s.entries)
    (hdays : s.dates.Pairwise (· < ·)) (hn : NaNFree u.entries) :
    u.stats.Describes u.entries := by
  cases h.refigures with
  | anew hstats =>
    rw [hstats]
    exact Stats.describes_ofEntries hn
  | same hentries hstats => rwa [hentries, hstats]
  | filled hsplits hv hentries hstats =>
    obtain ⟨hl, hr⟩ := hsplits.le_of_rising (hdays.imp Nat.le_of_lt)
    obtain ⟨hes, rfl, -⟩ := hsplits
    rw [hes] at hs
    rw [hentries] at hn
    rw [hentries, hstats]
    exact Stats.describes_insert hs hv hl hr hn

end Series

end Daybook
