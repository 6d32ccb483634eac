import Mathlib.Data.List.Infix
import Daybook.Proofs.Series.Days
import Daybook.Proofs.Session.Steps

/-!
What holds of a session at any moment. A series keeps its days for ever, the registry lists what
has been registered, in that order and on the days of its own axis, and a step that fails has
changed nothing.
-/

namespace Daybook

def Reply.slot? : Reply → Option ℕ
  | slot i => some i
  | _ => none

/-- The slot that a step has registered, told from its answer. -/
def Step.registered (a : Step) (r : Reply) : List ℕ :=
  if a.role = .registers then r.slot?.toList else []

lemma Step.registered_eq_nil {a : Step} {r : Reply} (h : r.slot? = none) : a.registered r = [] := by
  rw [registered, h]
  split <;> rfl

lemma Reply.slot?_of_isPlain {r : Reply} (h : r.isPlain = true) : r.slot? = none := by
  cases r with
  | slot => cases h
  | _ => rfl

namespace Session

variable {σ τ υ : Session} {a : Step} {log log' : List ℕ}

/-- The slots that a run registers, in the order in which it does. -/
def registrations (σ : Session) : List Step → List ℕ
  | [] => []
  | a :: steps => a.registered (σ.step a).2 ++ (σ.step a).1.registrations steps

def days (σ : Session) : List (List Date) := σ.slots.map Series.dates

lemma days_append {s : Series} (h : τ.slots = σ.slots ++ [s]) : τ.days = σ.days ++ [s.dates] := by
  rw [days, h, List.map_append]
  rfl

lemma days_setSlot {i : ℕ} {s t : Series} (hs : σ.slots[i]? = some s) (ht : t.dates = s.dates) :
    (σ.setSlot i t).days = σ.days := by
  obtain ⟨hi, rfl⟩ := List.getElem?_eq_some_iff.1 hs
  have hdays : σ.days.length = σ.slots.length := List.length_map _
  have hself : σ.days[i] = t.dates := by simp [days, ht]
  rw [days, setSlot, List.map_set, ← hself]
  exact List.set_getElem_self (hdays ▸ hi)

/-! ### What steps keep and add -/

/-- A session that others may become: its axis stays, its series keep their days and places, and
its members are followed by those registered since, which are on the axis. -/
structure Grows (σ τ : Session) (log : List ℕ) : Prop where
  axis_eq : τ.axis = σ.axis
  days_kept : σ.days <+: τ.days
  members_eq : τ.members = σ.members ++ log
  logged : ∀ i ∈ log, τ.days[i]? = some σ.axis

lemma Grows.refl (σ : Session) : σ.Grows σ [] where
  axis_eq := rfl
  days_kept := List.prefix_rfl
  members_eq := (List.append_nil _).symm
  logged := nofun

lemma Grows.getElem?_days (h : σ.Grows τ log) {i : ℕ} {axis : List Date}
    (hi : σ.days[i]? = some axis) : τ.days[i]? = some axis := by
  obtain ⟨hlt, rfl⟩ := List.getElem?_eq_some_iff.1 hi
  exact List.prefix_iff_getElem?.1 h.days_kept i hlt

lemma Grows.trans (h : σ.Grows τ log) (h' : τ.Grows υ log') : σ.Grows υ (log ++ log') where
  axis_eq := h'.axis_eq.trans h.axis_eq
  days_kept := h.days_kept.trans h'.days_kept
  members_eq := by rw [h'.members_eq, h.members_eq, List.append_assoc]
  logged := by
    intro i hi
    rcases List.mem_append.1 hi with hi | hi
    · exact h'.getElem?_days (h.logged i hi)
    · rw [h'.logged i hi, h.axis_eq]

lemma Takes.grows {r : Session × Reply} (h : σ.Takes a r) : σ.Grows r.1 (a.registered r.2) := by
  cases h with
  | nothing hr =>
    rw [Step.registered_eq_nil (Reply.slot?_of_isPlain hr)]
    exact .refl σ
  | refused =>
    rw [Step.registered_eq_nil rfl]
    exact .refl σ
  | found => exact .refl σ
  | @learned _ t ha =>
    have hlog : a.registered (σ.learn t).2 = [] :=
      if_neg (by rcases ha with ha | ha <;> rw [ha] <;> nofun)
    rw [hlog]
    exact ⟨rfl, ⟨_, (days_append rfl).symm⟩, (List.append_nil _).symm, nofun⟩
  | @created _ _ _ _ t _ hdates =>
    refine ⟨rfl, ⟨_, (days_append rfl).symm⟩, rfl, fun i hi => ?_⟩
    rw [List.mem_singleton.1 hi, days_append rfl, hdates]
    simp [days]
  | @added i s hs hdates =>
    refine ⟨rfl, List.prefix_rfl, rfl, fun k hk => ?_⟩
    rw [List.mem_singleton.1 hk, ← hdates]
    simp [days, hs]
  | edited ha hs ht =>
    rw [Step.registered, if_neg (by rw [ha]; nofun)]
    exact ⟨rfl, by rw [days_setSlot hs ht.dates_eq], (List.append_nil _).symm, nofun⟩

theorem grows_run (σ : Session) (steps : List Step) :
    σ.Grows (σ.run steps) (σ.registrations steps) := by
  induction steps generalizing σ with
  | nil => exact .refl σ
  | cons a steps ih => exact (takes_step σ a).grows.trans (ih _)

/-! ### The registry -/

lemma map_some_filterMap {α β : Type} {f : α → Option β} {xs : List α}
    (h : ∀ x ∈ xs, (f x).isSome = true) : (xs.filterMap f).map some = xs.map f := by
  induction xs with
  | nil => rfl
  | cons x xs ih =>
    obtain ⟨hx, hall⟩ := List.forall_mem_cons.1 h
    obtain ⟨y, hy⟩ := Option.isSome_iff_exists.1 hx
    rw [List.filterMap_cons_some hy, List.map_cons, List.map_cons, ih hall, hy]

/-- A session that is as it should be: every series has a value or a gap for each of its days,
and the registry holds the series of the given slots, in that order, on its axis. -/
structure Consistent (σ : Session) (axis : List Date) (log : List ℕ) : Prop where
  lengths : ∀ s ∈ σ.slots, s.values.length = s.dates.length
  axis_eq : σ.toRegistry.axis = axis
  dates_eq : ∀ s ∈ σ.toRegistry.members, s.dates = axis
  members_eq : σ.toRegistry.members.map some = log.map (σ.slots[·]?)

lemma Grows.consistent (h : σ.Grows τ log) (hσ : σ.members = []) :
    τ.Consistent σ.axis log := by
  have hmembers : τ.members = log := by rw [h.members_eq, hσ, List.nil_append]
  have hlog : ∀ i ∈ log, ∃ s, τ.slots[i]? = some s ∧ s.dates = σ.axis := by
    intro i hi
    have hdays := h.logged i hi
    rw [days, List.getElem?_map] at hdays
    exact Option.map_eq_some_iff.1 hdays
  refine ⟨fun s _ => by simp, h.axis_eq, fun s hs => ?_, ?_⟩
  · obtain ⟨i, hi, hs⟩ := List.mem_filterMap.1 hs
    obtain ⟨t, ht, hdates⟩ := hlog i (hmembers ▸ hi)
    rw [hs] at ht
    rwa [Option.some.inj ht]
  · rw [toRegistry, hmembers]
    refine map_some_filterMap fun i hi => ?_
    obtain ⟨s, hs, -⟩ := hlog i hi
    rw [hs]
    rfl

/-! ### Failures -/

lemma Takes.unchanged {r : Session × Reply} (h : σ.Takes a r) (hr : r.2.isFailure = true) :
    r.1 = σ := by
  cases h with
  | nothing | refused | found => rfl
  | learned | created | added => cases hr
  | edited _ _ _ hreply =>
    rcases hreply with rfl | ⟨done, rfl⟩ <;> cases hr

lemma Takes.refuses {r : Session × Reply} {f : SeriesFault} (h : σ.Takes a r)
    (hr : r.2 = .refused f) : σ.Refuses a f := by
  cases h with
  | nothing hplain =>
    cases hr
    cases hplain
  | refused hf =>
    cases hr
    exact hf
  | found | learned | created | added => cases hr
  | edited _ _ _ hreply =>
    rcases hreply with rfl | ⟨done, rfl⟩ <;> cases hr

lemma withSlot_of_some {i : ℕ} {s : Series} (hs : σ.slots[i]? = some s)
    (k : Series → Session × Reply) : σ.withSlot i k = k s := by
  rw [withSlot, hs]

lemma Refuses.step_eq {f : SeriesFault} (h : σ.Refuses a f) : σ.step a = (σ, .refused f) := by
  cases h with
  | add hs hdates => rw [step, withSlot_of_some hs, if_neg hdates]
  | new hlength =>
    simp only [step, Series.make, Option.getD_some, if_neg hlength]
  | @withValues i s values hs hlength =>
    have hlength' : ¬ values.length = s.length := by rwa [← Series.length_dates]
    simp only [step, withSlot_of_some hs, Series.withValues, if_neg hlength', Series.length_dates]

theorem step_refused_iff {f : SeriesFault} :
    (σ.step a).2 = .refused f ↔ σ.Refuses a f := by
  constructor
  · exact (takes_step σ a).refuses
  · intro h
    rw [h.step_eq]

/-! ### Series that are asked for -/

/-- The days and the values that a step asks for in a new series. -/
def asked (σ : Session) : Step → Option (List Date × List (Option Float))
  | .new axis values _ _ _ _ _ =>
    let days := axis.getD σ.axis
    some (days, values.getD (days.map fun _ => none))
  | .clone i => (σ.slots[i]?).map fun s => (s.dates, s.values)
  | .withValues i values => (σ.slots[i]?).map fun s => (s.dates, values)
  | _ => none

lemma learn_of_asked {days : List Date} {values : List (Option Float)}
    (h : σ.asked a = some (days, values)) (hlength : values.length = days.length) :
    ∃ t, σ.step a = σ.learn t ∧ t.dates = days ∧ t.values = values := by
  cases a with
  | new axis given id name measure usedAsX targets =>
    cases h
    have hmade : Series.make (axis.getD σ.axis) given id name measure usedAsX targets = .ok _ :=
      if_pos hlength
    refine ⟨_, by rw [step, hmade], ?_⟩
    exact ⟨Series.dates_zipEntries hlength, Series.values_zipEntries hlength⟩
  | clone i =>
    obtain ⟨s, hs, h⟩ := Option.map_eq_some_iff.1 h
    cases h
    exact ⟨s.clone, withSlot_of_some hs _, rfl, rfl⟩
  | withValues i given =>
    obtain ⟨s, hs, h⟩ := Option.map_eq_some_iff.1 h
    cases h
    have hmade : s.withValues values = .ok _ := if_pos (by rwa [← Series.length_dates])
    refine ⟨_, by rw [step, withSlot_of_some hs, hmade], ?_⟩
    exact ⟨Series.dates_zipEntries hlength, Series.values_zipEntries hlength⟩
  | _ => cases h

/-- **A session is consistent at every moment.** Whatever steps it has taken from an empty
registry on, every series has a value or a gap for each of its days and keeps these days, and the
registry holds what has been registered, in that order and on its axis. A new series is just what
was asked for. Nothing is refused but series on foreign days and values that are too few or too
many, and a step that fails leaves the session as it was. -/
theorem consistent_run (axis : List Date) (context : Context) (steps : List Step) :
    let σ : Session := { axis, context }
    let τ := σ.run steps
    τ.Consistent axis (σ.registrations steps) ∧
      (∀ more, τ.slots.map Series.dates <+: (τ.run more).slots.map Series.dates) ∧
      (∀ a days values, τ.asked a = some (days, values) → values.length = days.length →
        ∃ t, τ.step a = τ.learn t ∧ t.dates = days ∧ t.values = values) ∧
      (∀ a f, (τ.step a).2 = .refused f ↔ τ.Refuses a f) ∧
      ∀ a, (τ.step a).2.isFailure = true → (τ.step a).1 = τ := by
  intro σ τ
  have hgrows : σ.Grows τ (σ.registrations steps) := grows_run σ steps
  refine ⟨hgrows.consistent rfl, fun more => ?_, fun _ _ _ => learn_of_asked,
    fun _ _ => step_refused_iff, fun a => ?_⟩
  · exact (grows_run τ more).days_kept
  · exact (takes_step τ a).unchanged

end Session

end Daybook
