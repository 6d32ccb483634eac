import Daybook.Proofs.Series.Statistics
import Daybook.Proofs.Session.Slots

/-!
The series that a session can come to hold: its figures have once been computed from its values,
and since then it has only been changed in place. The count is that of the values, and as long as the
values are numbers the extremes are theirs too, on whatever days they stand.
-/

namespace Daybook

namespace Series

variable {s t : Series} {day : Date} {x : Float} {es : List Entry}

/-- What becomes of a series with computed figures by changes in place. -/
inductive Kept : Series → Prop
  | computed {s : Series} : s.stats = Stats.ofEntries s.entries → Kept s
  | edited {s t : Series} : Kept s → s.Edited t → Kept t

/-- The extremes are those of the values. -/
structure Ranged (s : Series) : Prop where
  least : Extreme (· ≤ ·) s.present s.stats.least
  greatest : Extreme (fun m x => x ≤ m) s.present s.stats.greatest

lemma ranged_of_stats_eq (h : s.stats = Stats.ofEntries s.entries) (hn : NaNFree s.entries) :
    s.Ranged where
  least := by
    rw [h, Stats.ofEntries_eq]
    exact picks_lesser.extreme_foldl_of_numbers hn
  greatest := by
    rw [h, Stats.ofEntries_eq]
    exact picks_greater.extreme_foldl_of_numbers hn

lemma Splits.nanFree {l r : List Entry} {e : Entry} (h : s.Splits day l e r) (he : e.value = none)
    (hn : NaNFree (l ++ { e with value := some x } :: r)) : NaNFree s.entries := by
  intro y hy
  rw [h.entries_eq] at hy
  exact hn y ((Stats.mem_presentValues_filled he y).2 (.inr hy))

lemma Ranged.filled {l r : List Entry} {e : Entry} (hs : s.Ranged) (h : s.Splits day l e r)
    (he : e.value = none) (hn : NaNFree t.entries)
    (hentries : t.entries = l ++ { e with value := some x } :: r)
    (hstats : t.stats = s.stats.insert day x) : t.Ranged := by
  have hvalues : ∀ y, y ∈ presentValues t.entries ↔ y = x ∨ y ∈ presentValues s.entries := by
    rw [h.entries_eq, hentries]
    exact Stats.mem_presentValues_filled he
  refine ⟨?_, ?_⟩
  · rw [hstats]
    exact picks_lesser.insert hs.least hn hvalues
  · rw [hstats]
    exact picks_greater.insert hs.greatest hn hvalues

/-- **One change** keeps the extremes in order. -/
lemma ranged_of_edited (hs : NaNFree s.entries → s.Ranged) (h : s.Edited t)
    (hn : NaNFree t.entries) : t.Ranged := by
  cases h.refigures with
  | anew hstats => exact ranged_of_stats_eq hstats hn
  | same hentries hstats =>
    have hpresent : t.present = s.present := congrArg presentValues hentries
    rw [hentries] at hn
    exact ⟨by rw [hpresent, hstats]; exact (hs hn).least,
      by rw [hpresent, hstats]; exact (hs hn).greatest⟩
  | filled hsplits hv hentries hstats =>
    have hbefore : NaNFree s.entries := hsplits.nanFree hv (hentries ▸ hn)
    exact (hs hbefore).filled hsplits hv hn hentries hstats

/-- **All changes** do. A NaN may have been among the values meanwhile. -/
lemma Kept.ranged (h : s.Kept) (hn : NaNFree s.entries) : s.Ranged := by
  induction h with
  | computed hs => exact ranged_of_stats_eq hs hn
  | edited _ he ih => exact ranged_of_edited ih he hn

lemma count_of_stats_eq (h : s.stats = Stats.ofEntries s.entries) :
    s.stats.count = s.present.length := by
  rw [h, Stats.ofEntries_eq]
  exact length_presentEntries

/-- **One change** keeps the number of the present values. -/
lemma count_of_edited (hs : s.stats.count = s.present.length) (h : s.Edited t) :
    t.stats.count = t.present.length := by
  cases h.refigures with
  | anew hstats => exact count_of_stats_eq hstats
  | same hentries hstats =>
    have hpresent : t.present = s.present := congrArg presentValues hentries
    rw [hpresent, hstats, hs]
  | @filled day x l r e hsplits hv hentries hstats =>
    have hbefore : s.present = presentValues l ++ presentValues r := by
      rw [← Stats.presentValues_absent hv, ← hsplits.entries_eq]
      rfl
    have hafter : t.present = presentValues l ++ x :: presentValues r := by
      rw [← Stats.presentValues_filled, ← hentries]
      rfl
    rw [hstats, hafter, Stats.insert, hs, hbefore]
    simp only [List.length_append, List.length_cons]
    omega

/-- **All changes** do, whatever the values are. -/
lemma Kept.count_eq (h : s.Kept) : s.stats.count = s.present.length := by
  induction h with
  | computed hs => exact count_of_stats_eq hs
  | edited _ he ih => exact count_of_edited ih he

end Series

namespace Session

variable {σ : Session}

lemma kept_step (hσ : ∀ s ∈ σ.slots, s.Kept) (a : Step) : ∀ s ∈ (σ.step a).1.slots, s.Kept := by
  intro t ht
  cases follows_step σ a t ht with
  | known hs => exact hσ t hs
  | edited hs he => exact .edited (hσ _ hs) he
  | computed hs => exact .computed hs

/-- **No run holds any other series**, if it starts without one. -/
theorem kept_run (hσ : ∀ s ∈ σ.slots, s.Kept) (steps : List Step) :
    ∀ s ∈ (σ.run steps).slots, s.Kept := by
  induction steps generalizing σ with
  | nil => exact hσ
  | cons a steps ih => exact ih (kept_step hσ a)

end Session

end Daybook
