import Mathlib.Data.List.Infix
import Daybook.Proofs.Series.Statistics
import Daybook.Proofs.Session.Slots

/-!
The figures of all series of a session belong to their values at every moment of every run, as
long as no NaN is stored: each step keeps them in order, whether it computes them anew or brings
them up to date.
-/

namespace Daybook.Session

def NaNFree (σ : Session) : Prop := ∀ s ∈ σ.slots, Daybook.NaNFree s.entries

instance (σ : Session) : Decidable σ.NaNFree :=
  inferInstanceAs (Decidable (∀ s ∈ σ.slots, ∀ x ∈ presentValues s.entries, x.isNaN = false))

/-- **The invariant of a session**: the figures of every series on rising days are in order. -/
def Described (σ : Session) : Prop :=
  ∀ s ∈ σ.slots, s.dates.Pairwise (· < ·) → s.stats.Describes s.entries

variable {σ : Session}

lemma described_step (hσ : σ.Described) (a : Step) (hn : (σ.step a).1.NaNFree) :
    (σ.step a).1.Described := by
  intro t ht hdays
  cases follows_step σ a t ht with
  | known hs => exact hσ t hs hdays
  | @edited s _ hs he =>
    rw [he.dates_eq] at hdays
    exact he.describes (hσ s hs hdays) hdays (hn t ht)
  | computed hs =>
    rw [hs]
    exact Stats.describes_ofEntries (hn t ht)

lemma described_run (hσ : σ.Described) (steps : List Step)
    (hn : ∀ taken, taken <+: steps → (σ.run taken).NaNFree) : (σ.run steps).Described := by
  induction steps generalizing σ with
  | nil => exact hσ
  | cons a steps ih =>
    have ha : (σ.step a).1.NaNFree := hn [a] ⟨steps, rfl⟩
    refine ih (described_step hσ a ha) fun taken ht => ?_
    exact hn (a :: taken) (List.cons_prefix_cons.2 ⟨rfl, ht⟩)

/-- **Cached figures stay in order.** In a run that starts without series and never stores a NaN,
the figures of every series on the days of a range belong to its values. -/
theorem describes_of_run (hσ : σ.slots = []) (steps : List Step)
    (hn : ∀ taken, taken <+: steps → (σ.run taken).NaNFree) {s : Series}
    (hs : s ∈ (σ.run steps).slots) {a b : Date} {r : Registry} (hr : Registry.ofRange a b = .ok r)
    (hd : s.dates = r.axis) : s.stats.Describes s.entries := by
  have h0 : σ.Described := by
    intro s hs
    rw [hσ] at hs
    cases hs
  have haxis : r.axis = Date.range a b := by
    rw [Registry.ofRange] at hr
    split at hr <;> cases hr
    rfl
  refine described_run h0 steps hn s hs ?_
  rw [hd, haxis]
  exact Date.pairwise_range a b

/-- The last days of February and the first of March, without series. -/
def leapDays : Session :=
  { axis := Date.range ((Date.of? 2024 2 28).get Date.isSome_february28)
      ((Date.of? 2024 3 1).get Date.isSome_march1) }

/-- A series gets its values from the last day to the first, is shifted where it reaches a
threshold, and an expression is made of it. -/
def backwards : List Step := [
  .create 1 none .number false,
  .setValue 0 ((Date.of? 2024 3 1).get Date.isSome_march1) 3.0,
  .setValue 0 ((Date.of? 2024 2 28).get Date.isSome_february28) 1.0,
  .shiftValues 0 (-4.0) (some 2.0),
  .evaluate "dataset(1) / 2".toList]

theorem describes_of_run_backwards :
    (∀ taken, taken <+: backwards → (leapDays.run taken).NaNFree) ∧
      ∃ s ∈ (leapDays.run backwards).slots, s.values = [some 0.5, none, some (-0.5)] ∧
        s.stats.Describes s.entries := by
  have hn : ∀ taken ∈ backwards.inits, (leapDays.run taken).NaNFree := by decide +kernel
  have hs : (leapDays.run backwards).slots[1]?.map (fun s => (s.values, s.dates)) =
      some ([some 0.5, none, some (-0.5)], leapDays.axis) := by decide +kernel
  have hrange : Registry.ofRange ((Date.of? 2024 2 28).get (by decide))
      ((Date.of? 2024 3 1).get (by decide)) = .ok { axis := leapDays.axis } := if_neg (by decide)
  have hn' : ∀ taken, taken <+: backwards → (leapDays.run taken).NaNFree :=
    fun taken ht => hn taken ((List.mem_inits _ _).2 ht)
  obtain ⟨s, hs, hvd⟩ := Option.map_eq_some_iff.1 hs
  obtain ⟨hvalues, hdates⟩ := Prod.mk.inj hvd
  have hmem : s ∈ (leapDays.run backwards).slots := List.mem_of_getElem? hs
  exact ⟨hn', s, hmem, hvalues, describes_of_run rfl backwards hn' hmem hrange hdates⟩

end Daybook.Session
