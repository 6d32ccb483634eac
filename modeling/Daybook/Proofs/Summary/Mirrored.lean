import Daybook.Operation
import Daybook.Proofs.Number.Bits
import Daybook.Proofs.Series.Days
import Daybook.Proofs.Summary.Current
import Daybook.Proofs.Summary.ExtremeDays

/-!
A series with a minus sign before every value. Going through the negated values keeps step with
going through the values, with less and greater exchanged, so the extremes change places and are
negated; on a draw both keep the value they met first, and both keep a NaN that came first. Which
days are present, and what the runs of days are, does not change.
-/

namespace Daybook

variable {e : Entry} {es : List Entry}

def Entry.negated (e : Entry) : Entry := { e with value := e.value.map fun x => -x }

@[simp] lemma Entry.isPresent_negated : e.negated.isPresent = e.isPresent := Option.isSome_map

lemma Entry.negated_comp_negated : Entry.negated ∘ Entry.negated = id := by
  funext e
  rcases e with ⟨day, _ | x⟩
  · rfl
  · simp only [Function.comp_apply, Entry.negated, Option.map_some, Number.neg_neg_eq, id_eq]

/-! ### The figures -/

namespace Stats

variable {t : Stats}

/-- The figures with the extremes exchanged and negated. -/
def mirrored (t : Stats) : Stats :=
  { t with
    least := t.greatest.map fun x => -x
    greatest := t.least.map fun x => -x }

lemma lesser_neg (known : Option Float) (x : Float) :
    lesser (known.map fun m => -m) (-x) = (greater known x).map fun m => -m := by
  cases known with
  | none => rfl
  | some m =>
    simp only [Option.map_some, lesser, greater, Number.neg_lt_neg_iff]
    split <;> rfl

lemma greater_neg (known : Option Float) (x : Float) :
    greater (known.map fun m => -m) (-x) = (lesser known x).map fun m => -m := by
  cases known with
  | none => rfl
  | some m =>
    simp only [Option.map_some, lesser, greater, Number.neg_lt_neg_iff]
    split <;> rfl

/-- **One day**: the two ways keep step. -/
lemma push_negated (t : Stats) (e : Entry) : t.mirrored.push e.negated = (t.push e).mirrored := by
  rcases hv : e.value with _ | x
  · simp only [push, Entry.negated, hv, Option.map_none]
  · simp only [push, Entry.negated, hv, Option.map_some, mirrored, lesser_neg, greater_neg]

lemma foldl_push_negated (t : Stats) (es : List Entry) :
    (es.map Entry.negated).foldl push t.mirrored = (es.foldl push t).mirrored := by
  induction es generalizing t with
  | nil => rfl
  | cons e es ih => rw [List.map_cons, List.foldl_cons, List.foldl_cons, push_negated, ih]

/-- **All days**: the figures of the negated values are those of the values, mirrored. -/
lemma ofEntries_negated (es : List Entry) :
    ofEntries (es.map Entry.negated) = (ofEntries es).mirrored := foldl_push_negated {} es

end Stats

/-! ### The runs -/

namespace Run

variable {present later : Bool} {f : Entry → Entry}

lemma foldl_step_map (hday : ∀ e, (f e).day = e.day) (hpresent : ∀ e, (f e).isPresent = e.isPresent)
    (state : Run × Run) :
    (es.map f).foldl (step present later) state = es.foldl (step present later) state := by
  induction es generalizing state with
  | nil => rfl
  | cons e es ih =>
    have hstep : step present later state (f e) = step present later state e := by
      rw [step, step, hday, hpresent]
    rw [List.map_cons, List.foldl_cons, List.foldl_cons, hstep, ih]

lemma longest_negated (es : List Entry) :
    longest present later (es.map Entry.negated) = longest present later es :=
  congrArg Prod.fst
    (foldl_step_map (f := Entry.negated) (fun _ => rfl) (fun _ => Entry.isPresent_negated) ({}, {}))

lemma current_negated (es : List Entry) :
    current present (es.map Entry.negated) = current present es := by
  rw [← foldl_step_snd present true, ← foldl_step_snd present true es,
    foldl_step_map (f := Entry.negated) (fun _ => rfl) fun _ => Entry.isPresent_negated]

end Run

/-! ### The series -/

namespace Series

variable {s t : Series}

def negated (s : Series) : Series := s.mapPresent fun x => -x

lemma entries_negated (s : Series) : s.negated.entries = s.entries.map Entry.negated := rfl

lemma stats_negated (hs : s.stats = s.recalculate.stats) : s.negated.stats = s.stats.mirrored := by
  rw [hs]
  exact Stats.ofEntries_negated s.entries

lemma entries_negated_negated (s : Series) : s.negated.negated.entries = s.entries := by
  rw [entries_negated, entries_negated, List.map_map, Entry.negated_comp_negated, List.map_id]

end Series

namespace Summary

variable {s t : Series} {c : Context} {x : Float}

lemma lastDayOf_negated (s : Series) (x : Float) : lastDayOf s.negated (-x) = lastDayOf s x := by
  have hsame : (fun e : Entry => e.value.any (· == -x)) ∘ Entry.negated =
      fun e => e.value.any (· == x) := by
    funext e
    rcases hv : e.value with _ | y
    · simp only [Function.comp_apply, Entry.negated, hv, Option.map_none, Option.any_none]
    · simp only [Function.comp_apply, Entry.negated, hv, Option.map_some, Option.any_some,
        Number.neg_beq_neg]
  rw [lastDayOf_eq, lastDayOf_eq, Series.entries_negated, ← List.map_reverse, List.find?_map, hsame,
    Option.map_map]
  rfl

/-- Two figures that are the same day, or both faults for want of data. -/
inductive SameDay : Outcome Value → Outcome Value → Prop
  | same (d : Date) : SameDay (.ok (day d)) (.ok (day d))
  | noData {f g : Fault} : f.kind = .noData → g.kind = .noData → SameDay (.fault f) (.fault g)

lemma sameDay_orFault (d : Option Date) {f g : Fault} (hf : f.kind = .noData)
    (hg : g.kind = .noData) : SameDay (orFault (d.map day) f) (orFault (d.map day) g) := by
  cases d with
  | none => exact .noData hf hg
  | some d => exact .same d

/-- The second series is the first one with the least and the greatest exchanged: the extremes
are negated and their days change places. The present days, the other figures and the runs of
days are the same. -/
structure Mirrors (c : Context) (s t : Series) : Prop where
  dates : t.dates = s.dates
  present : ∀ k, (t.valueOn k).isSome = (s.valueOn k).isSome
  greatest : t.stats.greatest = s.stats.least.map fun x => -x
  least : t.stats.least = s.stats.greatest.map fun x => -x
  nans : t.stats.greatest.map Float.isNaN = s.stats.least.map Float.isNaN ∧
    t.stats.least.map Float.isNaN = s.stats.greatest.map Float.isNaN
  count : t.stats.count = s.stats.count
  firstDay : t.stats.firstDay = s.stats.firstDay
  lastDay : t.stats.lastDay = s.stats.lastDay
  greatestDay : SameDay (greatestDate.of c t) (leastDate.of c s)
  leastDay : SameDay (leastDate.of c t) (greatestDate.of c s)
  runs : ∀ present part, (longest present part).of c t = (longest present part).of c s ∧
    (current present part).of c t = (current present part).of c s

lemma bind_lastDayOf_negated (known : Option Float) :
    (known.map fun x => -x).bind (lastDayOf s.negated) = known.bind (lastDayOf s) := by
  cases known with
  | none => rfl
  | some x => exact lastDayOf_negated s x

lemma mirrors_negated (hs : s.stats = s.recalculate.stats) (c : Context) :
    Mirrors c s s.negated := by
  have hstats := Series.stats_negated hs
  have hnan : Float.isNaN ∘ (fun x => -x) = Float.isNaN := funext Number.isNaN_neg
  have hgreatest : s.negated.stats.greatest = s.stats.least.map fun x => -x := by rw [hstats]; rfl
  have hleast : s.negated.stats.least = s.stats.greatest.map fun x => -x := by rw [hstats]; rfl
  refine ⟨Series.dates_mapPresent _ _, fun k => ?_, hgreatest, hleast, ⟨?_, ?_⟩, ?_, ?_, ?_, ?_, ?_,
    fun present part => ⟨?_, ?_⟩⟩
  · rw [Series.negated, Series.valueOn_mapPresent, Option.isSome_map]
  · rw [hgreatest, Option.map_map, hnan]
  · rw [hleast, Option.map_map, hnan]
  · rw [hstats]; rfl
  · rw [hstats]; rfl
  · rw [hstats]; rfl
  · simp only [Summary.of, hgreatest, bind_lastDayOf_negated]
    exact sameDay_orFault _ rfl rfl
  · simp only [Summary.of, hleast, bind_lastDayOf_negated]
    exact sameDay_orFault _ rfl rfl
  · simp only [Summary.of, Series.entries_negated, Run.longest_negated]
  · simp only [Summary.of, Series.entries_negated, Run.current_negated]

/-- **A minus sign exchanges the extremes** of a series whose figures are those that belong to its
values, and a second one gives the values back. -/
theorem negation_mirrors (hs : s.stats = s.recalculate.stats) (o : Origin) (c : Context) :
    ∃ t, applyUnary "-" (.ok (.series s o)) = .ok (.series t .fresh) ∧ Mirrors c s t ∧
      ∃ u, applyUnary "-" (.ok (.series t .fresh)) = .ok (.series u .fresh) ∧
        u.dates = s.dates ∧ u.values = s.values := by
  have htwice := s.entries_negated_negated
  refine ⟨s.negated, rfl, mirrors_negated hs c, s.negated.negated, rfl, ?_, ?_⟩
  · rw [Series.dates, htwice, Series.dates]
  · rw [Series.values, htwice, Series.values]

/-- A gap, and the two zeros: they draw, so the one that comes first is both extremes. -/
def zeros : Series where
  entries := [⟨(Date.of? 2024 2 28).get Date.isSome_february28, none⟩,
    ⟨(Date.of? 2024 2 29).get Date.isSome_february29, some (-0.0)⟩,
    ⟨(Date.of? 2024 3 1).get Date.isSome_march1, some 0.0⟩]

theorem negation_mirrors_zeros : zeros.stats = zeros.recalculate.stats ∧
    ∃ t, applyUnary "-" (.ok (.series zeros .fresh)) = .ok (.series t .fresh) ∧
      t.stats.least = some (- -0.0) ∧ t.stats.greatest = some (- -0.0) ∧ t.stats.count = 2 ∧
      SameDay (greatestDate.of {} t) (leastDate.of {} zeros) := by
  obtain ⟨t, ht, hmirrors, -⟩ := negation_mirrors (s := zeros) rfl .fresh {}
  exact ⟨rfl, t, ht, hmirrors.least, hmirrors.greatest, hmirrors.count, hmirrors.greatestDay⟩

end Summary

end Daybook
