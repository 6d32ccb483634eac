import Mathlib.Data.List.Basic
import Daybook.Series.Edit

/-!
Changing a series in place. No change touches the days of a series or what it is known by.
-/

namespace Daybook.Series

/-- One change of a series in place. -/
inductive Edited (s : Series) : Series → Prop
  | setValue (day : Date) (x : Float) : Edited s (s.setValue day x).1
  | shiftValues (amount : Float) (threshold : Option Float) :
      Edited s (s.shiftValues amount threshold).1
  | fillMissing (x : Float) : Edited s (s.fillMissing x)
  | accumulate : Edited s s.accumulate
  | recalculate : Edited s s.recalculate
  | addTargets (n : Int) : Edited s (s.addTargets n)

variable {s t : Series} {day : Date}

lemma dates_totals (total : Float) (es : List Entry) :
    (totals total es).map (·.day) = es.map (·.day) := by
  induction es generalizing total with
  | nil => rfl
  | cons e es ih => simp [totals, ih]

/-- The entries in front of the first entry of a day, this entry, and those behind it. -/
structure Splits (s : Series) (day : Date) (l : List Entry) (e : Entry) (r : List Entry) :
    Prop where
  entries_eq : s.entries = l ++ e :: r
  day_eq : e.day = day
  indexOf?_eq : s.indexOf? day = some l.length

lemma exists_splits {i : ℕ} (h : s.indexOf? day = some i) :
    ∃ e, s.entries[i]? = some e ∧ s.Splits day (s.entries.take i) e (s.entries.drop (i + 1)) := by
  obtain ⟨hlt, hday, -⟩ := List.idxOf?_eq_some_iff.1 h
  have hi : i < s.entries.length := by simpa [dates] using hlt
  refine ⟨s.entries[i], List.getElem?_eq_getElem hi, by simp, by simpa [dates] using hday, ?_⟩
  rw [h, List.length_take, Nat.min_eq_left (Nat.le_of_lt hi)]

/-- What setting a value comes to, guards included: nothing on a foreign day; else the first entry
of the day gets the value, with new figures where it had one, and with figures brought up to date
where it had none. -/
inductive Sets (s : Series) (day : Date) (x : Float) : Series × Bool → Prop
  | foreign : day ∉ s.dates → Sets s day x (s, false)
  | replaced {l r : List Entry} {e : Entry} {y : Float} : s.Splits day l e r → e.value = some y →
      Sets s day x (s.setEntries (l ++ { e with value := some x } :: r), true)
  | filled {l r : List Entry} {e : Entry} : s.Splits day l e r → e.value = none →
      Sets s day x ({ s with
        entries := l ++ { e with value := some x } :: r
        stats := s.stats.insert day x }, true)

lemma sets_setValue (s : Series) (day : Date) (x : Float) : Sets s day x (s.setValue day x) := by
  rw [setValue]
  rcases hi : s.indexOf? day with _ | i
  · exact .foreign (List.idxOf?_eq_none_iff.1 hi)
  obtain ⟨e, he, hsplits⟩ := exists_splits hi
  obtain ⟨hlt, rfl⟩ := List.getElem?_eq_some_iff.1 he
  simp only [he, Option.bind_some, List.modify_eq_take_cons_drop hlt]
  rcases hv : s.entries[i].value with _ | y
  · exact .filled hsplits hv
  · exact .replaced hsplits hv

/-- What a change makes of the entries and the figures: the figures are computed anew, or both
stay, or an absent day gets a value and the figures are brought up to date. -/
inductive Refigures (s t : Series) : Prop
  | anew : t.stats = Stats.ofEntries t.entries → Refigures s t
  | same : t.entries = s.entries → t.stats = s.stats → Refigures s t
  | filled {day : Date} {x : Float} {l r : List Entry} {e : Entry} : s.Splits day l e r →
      e.value = none → t.entries = l ++ { e with value := some x } :: r →
      t.stats = s.stats.insert day x → Refigures s t

/-- **One change** of a series, as far as its entries and figures go. -/
lemma Edited.refigures (h : s.Edited t) : s.Refigures t := by
  cases h with
  | setValue day x =>
    have h := sets_setValue s day x
    generalize s.setValue day x = p at h ⊢
    cases h with
    | foreign => exact .same rfl rfl
    | replaced => exact .anew rfl
    | filled hsplits hv => exact .filled hsplits hv rfl rfl
  | shiftValues amount threshold =>
    rw [Series.shiftValues]
    split
    · exact .anew rfl
    · exact .same rfl rfl
  | fillMissing => exact .anew rfl
  | accumulate => exact .anew rfl
  | recalculate => exact .anew rfl
  | addTargets => exact .same rfl rfl

lemma Edited.dates_eq (h : s.Edited t) : t.dates = s.dates := by
  cases h with
  | setValue day x =>
    have h := sets_setValue s day x
    generalize s.setValue day x = p at h ⊢
    cases h with
    | foreign => rfl
    | replaced hsplits => simp [setEntries, dates, hsplits.entries_eq]
    | filled hsplits => simp [dates, hsplits.entries_eq]
  | shiftValues amount threshold =>
    rw [Series.shiftValues]
    split
    · simp [setEntries, dates]
    · rfl
  | fillMissing => simp [Series.fillMissing, setEntries, dates]
  | accumulate => exact dates_totals _ _
  | recalculate => rfl
  | addTargets => rfl

end Daybook.Series
