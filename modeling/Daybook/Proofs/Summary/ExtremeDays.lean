import Daybook.Proofs.Series.Statistics
import Daybook.Summary.Basic

/-!
The days of the extremes. The least and the greatest value are found from the front and their days
from the back. The two agree unless a NaN comes first: it is reported as an extreme, but it equals
nothing, not even itself, so that it has no day.
-/

namespace Daybook

namespace Series

/-- On the place stands a value that equals the given number. -/
def Holds (s : Series) (x : Float) (k : ℕ) : Prop := (s.valueOn k).any (· == x) = true

/-- The day is that of the last place on which the number stands. -/
def LastHolds (s : Series) (x : Float) (d : Date) : Prop :=
  ∃ k, s.dates[k]? = some d ∧ s.Holds x k ∧ ∀ j, k < j → ¬ s.Holds x j

end Series

namespace Summary

variable {s : Series} {x m : Float} {d : Date} {c : Context}

/-! ### The search from the back -/

lemma lastDayOf_eq : lastDayOf s x =
    (s.entries.reverse.find? fun e => e.value.any (· == x)).map (·.day) := by
  rw [lastDayOf]
  congr 2
  funext e
  cases e.value <;> rfl

lemma lastHolds_of_lastDayOf (h : lastDayOf s x = some d) : s.LastHolds x d := by
  rw [lastDayOf_eq] at h
  obtain ⟨e, he, rfl⟩ := Option.map_eq_some_iff.1 h
  obtain ⟨hx, behind, front, hsplit, hnot⟩ := List.find?_eq_some_iff_append.1 he
  -- the search runs from the back
  have hentries : s.entries = front.reverse ++ e :: behind.reverse := by
    rw [← List.reverse_reverse s.entries, hsplit]
    simp
  have hplace : s.entries[front.reverse.length]? = some e := by
    rw [hentries, List.getElem?_append_right (Nat.le_refl _), Nat.sub_self]
    rfl
  refine ⟨front.reverse.length, ?_, ?_, fun j hj hholds => ?_⟩
  · rw [Series.dates, List.getElem?_map, hplace]
    rfl
  · rw [Series.Holds, Series.valueOn, hplace]
    exact hx
  · obtain ⟨y, hy, hyx⟩ := (Option.any_eq_true _ _).1 hholds
    obtain ⟨a, ha, hay⟩ := Option.bind_eq_some_iff.1 hy
    obtain ⟨i, hi⟩ : ∃ i, j - front.reverse.length = i + 1 :=
      ⟨j - front.reverse.length - 1, by omega⟩
    rw [hentries, List.getElem?_append_right (by omega), hi, List.getElem?_cons_succ] at ha
    have hmem : a ∈ behind := List.mem_reverse.1 (List.mem_of_getElem? ha)
    simpa [hay, hyx] using hnot a hmem

lemma lastDayOf_eq_none : lastDayOf s x = none ↔ ∀ y ∈ s.present, (y == x) = false := by
  rw [lastDayOf_eq, Option.map_eq_none_iff, List.find?_eq_none]
  simp only [List.mem_reverse, Series.mem_present, Bool.not_eq_true]
  constructor
  · rintro h y ⟨e, he, hy⟩
    simpa [hy] using h e he
  · intro h e he
    rcases hv : e.value with _ | y
    · rfl
    · exact h y ⟨e, he, hv⟩

lemma exists_lastDayOf (hx : x ∈ s.present) (hn : x.isNaN = false) :
    ∃ d, lastDayOf s x = some d := by
  refine Option.ne_none_iff_exists'.1 fun hnone => ?_
  have hne := lastDayOf_eq_none.1 hnone x hx
  rw [Number.beq_self hn] at hne
  cases hne

lemma lastDayOf_of_isNaN (hx : x.isNaN = true) : lastDayOf s x = none := by
  refine lastDayOf_eq_none.2 fun y _ => ?_
  by_contra hbeq
  rw [(Number.numbers_of_beq (Bool.ne_false_iff.1 hbeq)).2] at hx
  cases hx

/-! ### The extremes and their days -/

/-- What is known as an extreme, and its day: both lack, or there is a value and the last day that
holds it, or a NaN has come first and stays without a day. -/
inductive Pairs (s : Series) : Option Float → Option Date → Prop
  | neither : s.present = [] → Pairs s none none
  | both {x : Float} {d : Date} : (∀ m, s.present.head? = some m → m.isNaN = false) →
      s.present ≠ [] → s.LastHolds x d → Pairs s (some x) (some d)
  | dayless {m : Float} : s.present.head? = some m → m.isNaN = true → Pairs s (some m) none

/-- An extreme and its day are reported together or not at all, unless the first value is a NaN.
The reported day is the last one that holds the extreme. A NaN that comes first is reported
without a day. -/
structure GoTogether (s : Series) (extreme date : Outcome Value) : Prop where
  iff : ((∃ v, extreme = .ok v) ↔ ∃ w, date = .ok w) ↔
    ∀ m, s.present.head? = some m → m.isNaN = false
  lastHolds : ∀ v w, extreme = .ok v → date = .ok w →
    ∃ x d, v = .number x ∧ w = day d ∧ s.LastHolds x d
  dayless : ∀ m, s.present.head? = some m → m.isNaN = true →
    extreme = .ok (.number m) ∧ ∃ f, date = .fault f ∧ f.kind = .noData

variable {le : Float → Float → Prop} {pick : Option Float → Float → Option Float}
  {a : Option Float} {b : Option Date} {f g : Fault}

lemma pairs_of_picks (hp : Picks le pick) (s : Series) :
    Pairs s (s.present.foldl pick none) ((s.present.foldl pick none).bind (lastDayOf s)) := by
  rcases hs : s.present with _ | ⟨m, xs⟩
  · exact .neither hs
  have hhead : s.present.head? = some m := by rw [hs]; rfl
  rcases hm : m.isNaN with _ | _
  · -- behind a first number the extreme is one of the numbers, and so it equals itself
    have hfirst : ∀ n, s.present.head? = some n → n.isNaN = false := by
      rintro n hn
      cases hhead.symm.trans hn
      exact hm
    have hext := hp.extreme_foldl hfirst
    have hmem : m ∈ numbers s.present := mem_numbers.2 ⟨List.mem_of_head? hhead, hm⟩
    rw [← hs]
    obtain ⟨x, hx⟩ := Option.ne_none_iff_exists'.1 fun hnone =>
      List.ne_nil_of_mem hmem (hext.none_iff.1 hnone)
    rw [hx] at hext ⊢
    obtain ⟨hin, hnum⟩ := mem_numbers.1 hext.mem
    obtain ⟨d, hd⟩ := exists_lastDayOf hin hnum
    rw [Option.bind_some, hd]
    exact .both hfirst (List.ne_nil_of_mem hin) (lastHolds_of_lastDayOf hd)
  · rw [hp.foldl_of_isNaN hm, Option.bind_some, lastDayOf_of_isNaN hm]
    exact .dayless hhead hm

lemma Pairs.goTogether (h : Pairs s a b) (f : Fault) (hg : g.kind = .noData) :
    GoTogether s (orFault (a.map .number) f) (orFault (b.map day) g) := by
  cases h with
  | neither hs =>
    have hnone : ∀ m, s.present.head? ≠ some m := by simp [hs]
    refine ⟨iff_of_true (iff_of_false ?_ ?_) fun m hm => absurd hm (hnone m), fun v w hv => ?_,
      fun m hm => absurd hm (hnone m)⟩
    · rintro ⟨v, hv⟩
      cases hv
    · rintro ⟨w, hw⟩
      cases hw
    · cases hv
  | @both x d hfirst hne hlast =>
    refine ⟨iff_of_true (iff_of_true ⟨_, rfl⟩ ⟨_, rfl⟩) hfirst, fun v w hv hw => ?_,
      fun m hm hnan => ?_⟩
    · cases hv
      cases hw
      exact ⟨x, d, rfl, rfl, hlast⟩
    · rw [hfirst m hm] at hnan
      cases hnan
  | @dayless m hm hnan =>
    refine ⟨iff_of_false (fun h => ?_) fun h => ?_, fun v w _ hw => ?_, fun n hn _ => ?_⟩
    · obtain ⟨w, hw⟩ := h.1 ⟨_, rfl⟩
      cases hw
    · rw [h m hm] at hnan
      cases hnan
    · cases hw
    · cases hm.symm.trans hn
      exact ⟨rfl, g, rfl, hg⟩

/-- **An extreme and its day go together** exactly if the first value is no NaN, for a series
whose figures are those that belong to its values. -/
theorem extremes_goTogether (hs : s.stats = s.recalculate.stats) (c : Context) :
    GoTogether s (least.of c s) (leastDate.of c s) ∧
      GoTogether s (greatest.of c s) (greatestDate.of c s) := by
  have hleast : s.stats.least = s.present.foldl Stats.lesser none := by
    rw [hs]
    exact congrArg Stats.least (Stats.ofEntries_eq s.entries)
  have hgreatest : s.stats.greatest = s.present.foldl Stats.greater none := by
    rw [hs]
    exact congrArg Stats.greatest (Stats.ofEntries_eq s.entries)
  simp only [Summary.of, hleast, hgreatest]
  exact ⟨(pairs_of_picks picks_lesser s).goTogether _ rfl,
    (pairs_of_picks picks_greater s).goTogether _ rfl⟩

/-- A number that stands on two days, and a NaN between them. -/
def interrupted : Series where
  entries := [⟨(Date.of? 2024 2 28).get Date.isSome_february28, some 1.0⟩,
    ⟨(Date.of? 2024 2 29).get Date.isSome_february29, some (0.0 / 0.0)⟩,
    ⟨(Date.of? 2024 3 1).get Date.isSome_march1, some 1.0⟩]

theorem extremes_goTogether_interrupted : interrupted.stats = interrupted.recalculate.stats ∧
    (∃ w, leastDate.of {} interrupted = .ok w) ∧ ∃ w, greatestDate.of {} interrupted = .ok w := by
  obtain ⟨hleast, hgreatest⟩ := extremes_goTogether (s := interrupted) rfl {}
  have hfirst : ∀ m, interrupted.present.head? = some m → m.isNaN = false := by decide +kernel
  exact ⟨rfl, (hleast.iff.2 hfirst).1 ⟨_, rfl⟩, (hgreatest.iff.2 hfirst).1 ⟨_, rfl⟩⟩

def notNumber : Series where
  entries := [⟨(Date.of? 2024 2 29).get Date.isSome_february29, some (0.0 / 0.0)⟩]

/-- A NaN is reported as the least and as the greatest value, and has no day as either. -/
theorem extremes_apart : notNumber.stats = notNumber.recalculate.stats ∧
    ((∃ v, least.of {} notNumber = .ok v) ∧ ¬ ∃ w, leastDate.of {} notNumber = .ok w) ∧
    (∃ v, greatest.of {} notNumber = .ok v) ∧ ¬ ∃ w, greatestDate.of {} notNumber = .ok w := by
  have hnan : (0.0 / 0.0 : Float).isNaN = true := by decide +kernel
  have hleast : leastDate.of {} notNumber =
      orFault ((lastDayOf notNumber (0.0 / 0.0)).map day) (.noData .leastDate) := rfl
  have hgreatest : greatestDate.of {} notNumber =
      orFault ((lastDayOf notNumber (0.0 / 0.0)).map day) (.noData .greatestDate) := rfl
  rw [lastDayOf_of_isNaN hnan] at hleast hgreatest
  refine ⟨rfl, ⟨⟨_, rfl⟩, ?_⟩, ⟨_, rfl⟩, ?_⟩
  · rintro ⟨w, hw⟩
    cases hleast.symm.trans hw
  · rintro ⟨w, hw⟩
    cases hgreatest.symm.trans hw

end Summary

end Daybook
