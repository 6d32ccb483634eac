import Daybook.Proofs.Session.Registration
import Daybook.Proofs.Session.Statistics

/-!
What evaluations leave alone. They may add series of their own making, and nothing that was there
before changes; only a step that edits a series changes one, and no other.
-/

namespace Daybook.Session

variable {σ τ υ : Session} {a : Step}

/-- The registry lists series that the session knows. -/
def Listed (σ : Session) : Prop := ∀ i ∈ σ.members, i < σ.slots.length

instance (σ : Session) : Decidable σ.Listed :=
  inferInstanceAs (Decidable (∀ i ∈ σ.members, i < σ.slots.length))

lemma length_days (σ : Session) : σ.days.length = σ.slots.length := List.length_map _

lemma Grows.listed {log : List ℕ} (h : σ.Grows τ log) (hσ : σ.Listed) : τ.Listed := by
  intro i hi
  rw [← length_days]
  rw [h.members_eq] at hi
  rcases List.mem_append.1 hi with hi | hi
  · have hlength := h.days_kept.length_le
    have hknown := hσ i hi
    rw [length_days] at hlength
    omega
  · exact (List.getElem?_eq_some_iff.1 (h.logged i hi)).1

/-- All that was there before is as it was: the series in their slots, and the registry. -/
structure Keeps (σ τ : Session) : Prop where
  slots : σ.slots <+: τ.slots
  members : τ.members = σ.members
  registry : τ.toRegistry = σ.toRegistry

lemma Keeps.refl (σ : Session) : σ.Keeps σ := ⟨List.prefix_rfl, rfl, rfl⟩

lemma Keeps.trans (h : σ.Keeps τ) (h' : τ.Keeps υ) : σ.Keeps υ :=
  ⟨h.slots.trans h'.slots, h'.members.trans h.members, h'.registry.trans h.registry⟩

lemma keeps_learn (hσ : σ.Listed) (t : Series) : σ.Keeps (σ.learn t).1 := by
  refine ⟨List.prefix_append _ _, rfl, ?_⟩
  have hmembers : σ.members.filterMap ((σ.slots ++ [t])[·]?) =
      σ.members.filterMap (σ.slots[·]?) :=
    List.filterMap_congr fun i hi => List.getElem?_append_left (hσ i hi)
  simp only [toRegistry, learn, hmembers]

lemma Takes.evaluated {r : Session × Reply} (h : σ.Takes a r) (ha : a.role = .evaluates) :
    (∃ reply, reply.isPlain = true ∧ r = (σ, reply)) ∨ (∃ t, r = σ.learn t) ∨
      ∃ text arg i, a = .evaluate text ∧ Expr.read text = .ok (.call datasetName [arg]) ∧
        i ∈ σ.members ∧ r = (σ, .slot i) := by
  cases h with
  | nothing hr => exact .inl ⟨_, hr, rfl⟩
  | refused hf => cases hf <;> cases ha
  | found hread hi => exact .inr (.inr ⟨_, _, _, rfl, hread, hi, rfl⟩)
  | learned => exact .inr (.inl ⟨_, rfl⟩)
  | created | added => cases ha
  | edited hrole =>
    rw [ha] at hrole
    cases hrole

lemma keeps_step (hσ : σ.Listed) (ha : a.role = .evaluates) : σ.Keeps (σ.step a).1 := by
  rcases (takes_step σ a).evaluated ha with ⟨r, -, h⟩ | ⟨t, h⟩ | ⟨_, _, i, -, -, -, h⟩ <;> rw [h]
  · exact .refl σ
  · exact keeps_learn hσ t
  · exact .refl σ

lemma keeps_run (hσ : σ.Listed) {steps : List Step} (h : ∀ a ∈ steps, a.role = .evaluates) :
    σ.Keeps (σ.run steps) := by
  induction steps generalizing σ with
  | nil => exact .refl σ
  | cons a steps ih =>
    obtain ⟨ha, hall⟩ := List.forall_mem_cons.1 h
    have hlisted : (σ.step a).1.Listed := (takes_step σ a).grows.listed hσ
    exact (keeps_step hσ ha).trans (ih hlisted hall)

lemma Takes.edits {r : Session × Reply} {i : ℕ} (h : σ.Takes a r) (ha : a.role = .edits i) :
    ∃ slots, r.1 = { σ with slots } ∧ slots.length = σ.slots.length ∧
      ∀ k, k ≠ i → slots[k]? = σ.slots[k]? := by
  cases h with
  | nothing | refused => exact ⟨σ.slots, rfl, rfl, fun _ _ => rfl⟩
  | found | created | added => cases ha
  | learned hrole => rcases hrole with hrole | hrole <;> rw [ha] at hrole <;> cases hrole
  | edited hrole =>
    rw [ha] at hrole
    cases hrole
    exact ⟨_, rfl, List.length_set, fun k hk => List.getElem?_set_ne (Ne.symm hk)⟩

/-- **Evaluations touch nothing that was there before.** However many expressions, templates,
operators, figures and reshaped series are evaluated, every series stands in its slot as it did
and the registry is the same. What an evaluation answers is no series, a new one, or a member,
and a member only where the expression is itself a look-up of one. A step that edits a series
changes that one alone. -/
theorem evaluations_keep (hσ : σ.Listed) :
    (∀ steps, (∀ a ∈ steps, a.role = .evaluates) → σ.Keeps (σ.run steps)) ∧
      (∀ a, a.role = .evaluates →
        (∃ reply, reply.isPlain = true ∧ σ.step a = (σ, reply)) ∨ (∃ t, σ.step a = σ.learn t) ∨
          ∃ text arg i, a = .evaluate text ∧ Expr.read text = .ok (.call datasetName [arg]) ∧
            i ∈ σ.members ∧ σ.step a = (σ, .slot i)) ∧
      (∀ a i, a.role = .edits i → ∃ slots, (σ.step a).1 = { σ with slots } ∧
        slots.length = σ.slots.length ∧ ∀ k, k ≠ i → slots[k]? = σ.slots[k]?) ∧
      ∀ steps, (σ.run steps).Listed :=
  ⟨fun _ => keeps_run hσ, fun a => (takes_step σ a).evaluated, fun a _ => (takes_step σ a).edits,
    fun steps => (grows_run σ steps).listed hσ⟩

/-- Evaluations of every kind; the third one fails. -/
def evaluations : List Step := [
  .evaluate "dataset(1)".toList,
  .evaluate "+dataset(1) * 2 / dataset(1)".toList,
  .evaluate "nothing(1)".toList,
  .unary "-" (.slot 0),
  .reshape 0 .setMissing [.given (.ok (.number 1.0))],
  .summarise 0 .sum,
  .render "\x7bdataset(1)\x7d".toList]

theorem evaluations_keep_backwards :
    (leapDays.run backwards).Listed ∧
      (leapDays.run backwards).Keeps ((leapDays.run backwards).run evaluations) := by
  have hlisted : (leapDays.run backwards).Listed := by decide +kernel
  exact ⟨hlisted, (evaluations_keep hlisted).1 evaluations (by decide)⟩

end Daybook.Session
