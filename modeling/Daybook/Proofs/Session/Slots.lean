import Daybook.Proofs.Session.Steps

/-!
What a step of a session can do to the series that the session knows. It leaves a series as it
was, changes it in place, or adds one whose figures have just been computed.
-/

namespace Daybook.Session

/-- The series that may stand in a slot after a step. -/
inductive Stores (σ : Session) : Series → Prop
  | known {t : Series} : t ∈ σ.slots → Stores σ t
  | edited {s t : Series} : s ∈ σ.slots → s.Edited t → Stores σ t
  | computed {t : Series} : t.stats = Stats.ofEntries t.entries → Stores σ t

variable {σ τ : Session}

/-- Every slot of the session holds a series that may stand there after a step from `σ`. -/
def Follows (σ τ : Session) : Prop := ∀ t ∈ τ.slots, σ.Stores t

lemma follows_of_slots_eq (h : τ.slots = σ.slots) : σ.Follows τ :=
  fun _ ht => .known (h ▸ ht)

lemma follows_of_slots_append {s : Series} (h : τ.slots = σ.slots ++ [s])
    (hs : s.stats = Stats.ofEntries s.entries) : σ.Follows τ := by
  intro t ht
  rw [h] at ht
  rcases List.mem_append.1 ht with ht | ht
  · exact .known ht
  · rw [List.mem_singleton.1 ht]
    exact .computed hs

lemma follows_setSlot {s u : Series} {i : ℕ} (hs : s ∈ σ.slots) (hu : s.Edited u) :
    σ.Follows (σ.setSlot i u) := by
  intro t ht
  rcases List.mem_or_eq_of_mem_set ht with ht | rfl
  · exact .known ht
  · exact .edited hs hu

/-- **What a step does to the slots.** -/
theorem follows_step (σ : Session) (a : Step) : σ.Follows (σ.step a).1 := by
  have h := takes_step σ a
  generalize σ.step a = r at h ⊢
  cases h with
  | nothing | refused | found | added => exact follows_of_slots_eq rfl
  | learned _ ht => exact follows_of_slots_append rfl ht
  | created ht => exact follows_of_slots_append rfl ht
  | edited _ hs he => exact follows_setSlot (List.mem_of_getElem? hs) he

end Daybook.Session
