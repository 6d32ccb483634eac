import Daybook.Proofs.Evaluation.Members
import Daybook.Proofs.Series.Edits
import Daybook.Session

/-!
What a step of a session comes to. Each step plays one part: it asks, registers a series, builds
one, changes one in place or evaluates. It leaves everything as it was, or has one effect that
its part allows.
-/

namespace Daybook

/-- The part that a step plays in a session. -/
inductive Step.Role
  | asks
  | registers
  | builds
  | edits (i : ℕ)
  | evaluates
  deriving DecidableEq

def Step.role : Step → Role
  | getValue .. | entries _ | present _ | describe _ | sharesAxis .. | get _ | default | indexOf _
  | registry => .asks
  | create .. | add _ => .registers
  | new .. | clone _ | withValues .. => .builds
  | setValue i .. | addTargets i _ | shiftValues i .. | fillMissing i _ | accumulate i
  | recalculate i => .edits i
  | binary .. | unary .. | summarise .. | reshape .. | evaluate _ | render _ => .evaluates

namespace Reply

/-- An answer that is no refusal and hands out no series. -/
def isPlain : Reply → Bool
  | slot _ | refused _ | value (.ok (.series ..)) => false
  | _ => true

/-- An answer that says that the step has failed. -/
def isFailure : Reply → Bool
  | refused _ | unknown | value (.error _) | rendered (.error _) => true
  | _ => false

end Reply

namespace Session

/-- What is refused, and why: a series on foreign days is not registered, and a series has one
value for each of its days. -/
inductive Refuses (σ : Session) : Step → SeriesFault → Prop
  | add {i : ℕ} {s : Series} : σ.slots[i]? = some s → s.dates ≠ σ.axis →
      Refuses σ (.add i) (.foreignAxis s.name)
  | new {axis : Option (List Date)} {values : List (Option Float)} {id : Int} {name : Points}
      {measure : Measure} {usedAsX : Bool} {targets : Int} :
      values.length ≠ (axis.getD σ.axis).length →
      Refuses σ (.new axis (some values) id name measure usedAsX targets)
        (.wrongLength name values.length (axis.getD σ.axis).length)
  | withValues {i : ℕ} {s : Series} {values : List (Option Float)} : σ.slots[i]? = some s →
      values.length ≠ s.dates.length →
      Refuses σ (.withValues i values) (.wrongLength "tmp" values.length s.dates.length)

/-- What a step comes to: the session after it, and the answer. -/
inductive Takes (σ : Session) : Step → Session × Reply → Prop
  | nothing {a : Step} {r : Reply} : r.isPlain = true → Takes σ a (σ, r)
  | refused {a : Step} {f : SeriesFault} : σ.Refuses a f → Takes σ a (σ, .refused f)
  /-- An expression that looks up a member is answered with its slot. -/
  | found {text : List Char} {arg : Expr} {i : ℕ} : Expr.read text = .ok (.call datasetName [arg]) →
      i ∈ σ.members → Takes σ (.evaluate text) (σ, .slot i)
  | learned {a : Step} {t : Series} : a.role = .builds ∨ a.role = .evaluates →
      t.stats = Stats.ofEntries t.entries → Takes σ a (σ.learn t)
  | created {id : Int} {name : Option Points} {measure : Measure} {usedAsX : Bool} {t : Series} :
      t.stats = Stats.ofEntries t.entries → t.dates = σ.axis →
      Takes σ (.create id name measure usedAsX)
        ({ σ with slots := σ.slots ++ [t], members := σ.members ++ [σ.slots.length] },
          .slot σ.slots.length)
  | added {i : ℕ} {s : Series} : σ.slots[i]? = some s → s.dates = σ.axis →
      Takes σ (.add i) ({ σ with members := σ.members ++ [i] }, .slot i)
  | edited {a : Step} {i : ℕ} {s t : Series} {r : Reply} : a.role = .edits i →
      σ.slots[i]? = some s → s.Edited t → r = .nothing ∨ (∃ done, r = .flag done) →
      Takes σ a (σ.setSlot i t, r)

variable {σ : Session} {a : Step}

lemma takes_withSlot {i : ℕ} {k : Series → Session × Reply}
    (h : ∀ s, σ.slots[i]? = some s → σ.Takes a (k s)) : σ.Takes a (σ.withSlot i k) := by
  rw [withSlot]
  split
  · exact h _ ‹_›
  · exact .nothing rfl

lemma takes_answer {v : Outcome Value} (ha : a.role = .evaluates)
    (h : ∀ u, v = .ok u → u.Computed ∨ ∃ text arg s k, a = .evaluate text ∧
      Expr.read text = .ok (.call datasetName [arg]) ∧ u = .series s (.member k)) :
    σ.Takes a (σ.answer v) := by
  rw [answer.eq_def]
  split
  · rename_i t
    rcases h _ rfl with hu | ⟨text, arg, s, k, -, -, hu⟩
    · exact .learned (.inr ha) (hu t .fresh rfl).2
    · cases hu
  · rename_i t i
    rcases h _ rfl with hu | ⟨text, arg, s, k, rfl, hread, -⟩
    · cases (hu t _ rfl).1
    · -- a member is answered with its slot, if it is there
      split
      · rename_i hslot
        exact .found hread (List.mem_of_getElem? hslot)
      · exact .nothing rfl
  · rename_i hfresh hmember
    refine .nothing ?_
    rcases v with e | x | m | ⟨t, i | _⟩ | b | s | _
    case ok.series.member => exact absurd rfl (hmember t i)
    case ok.series.fresh => exact absurd rfl (hfresh t)
    all_goals rfl

lemma takes_answer_ofFault {v : Except Fault Value} (ha : a.role = .evaluates)
    (h : ∀ u, v = .ok u → u.Computed) : σ.Takes a (σ.answer (ofFault v)) :=
  takes_answer ha fun u hu => .inl (h u (ofFault_eq_ok.1 hu))

lemma takes_make {axis : Option (List Date)} {values : Option (List (Option Float))} {id : Int}
    {name : Points} {measure : Measure} {usedAsX : Bool} {targets : Int} :
    σ.Takes (.new axis values id name measure usedAsX targets)
      (σ.step (.new axis values id name measure usedAsX targets)) := by
  simp only [step, Series.make]
  split
  · rename_i t ht
    split at ht <;> cases ht
    exact .learned (.inl rfl) rfl
  · rename_i f hf
    split at hf <;> cases hf
    rename_i hlength
    cases values with
    | none => exact absurd (List.length_map _) hlength
    | some values => exact .refused (.new hlength)

lemma takes_withValues {i : ℕ} {values : List (Option Float)} :
    σ.Takes (.withValues i values) (σ.step (.withValues i values)) := by
  refine takes_withSlot fun s hs => ?_
  rw [Series.withValues, ← Series.length_dates]
  by_cases hlength : values.length = s.dates.length
  · rw [if_pos hlength]
    exact .learned (.inl rfl) rfl
  · rw [if_neg hlength]
    exact .refused (.withValues hs hlength)

/-- **What a step comes to.** -/
theorem takes_step (σ : Session) (a : Step) : σ.Takes a (σ.step a) := by
  cases a with
  | create id name measure usedAsX =>
    refine .created rfl ?_
    simp [Registry.blankSeries, Series.dates, toRegistry, Function.comp_def]
  | new => exact takes_make
  | add i =>
    refine takes_withSlot fun s hs => ?_
    split
    · exact .added hs ‹_›
    · exact .refused (.add hs ‹_›)
  | clone i => exact takes_withSlot fun s _ => .learned (.inl rfl) rfl
  | withValues => exact takes_withValues
  | setValue i day x =>
    exact takes_withSlot fun s hs => .edited rfl hs (.setValue day x) (.inr ⟨_, rfl⟩)
  | addTargets i n => exact takes_withSlot fun s hs => .edited rfl hs (.addTargets n) (.inl rfl)
  | shiftValues i amount threshold =>
    exact takes_withSlot fun s hs =>
      .edited rfl hs (.shiftValues amount threshold) (.inr ⟨_, rfl⟩)
  | fillMissing i x => exact takes_withSlot fun s hs => .edited rfl hs (.fillMissing x) (.inl rfl)
  | accumulate i => exact takes_withSlot fun s hs => .edited rfl hs .accumulate (.inl rfl)
  | recalculate i => exact takes_withSlot fun s hs => .edited rfl hs .recalculate (.inl rfl)
  | getValue | entries | present | describe => exact takes_withSlot fun s _ => .nothing rfl
  | sharesAxis i j => exact takes_withSlot fun s _ => takes_withSlot fun t _ => .nothing rfl
  | get | default | indexOf | registry | render => exact .nothing rfl
  | binary operator a b =>
    simp only [step]
    split
    · exact takes_answer_ofFault rfl fun u => computed_of_applyBinary
    · exact .nothing rfl
  | unary operator a =>
    simp only [step]
    split
    · exact takes_answer_ofFault rfl fun u => computed_of_applyUnary
    · exact .nothing rfl
  | summarise i f =>
    exact takes_withSlot fun s _ => takes_answer rfl fun u hu =>
      .inl (Summary.Figure.computed (hu ▸ Summary.figure_of _ _ _))
  | reshape i f args =>
    refine takes_withSlot fun s _ => ?_
    split
    · exact takes_answer_ofFault rfl fun u => Reshape.computed_of_of
    · exact .nothing rfl
  | evaluate text =>
    refine takes_answer rfl fun u hu => ?_
    obtain ⟨e, hread, he⟩ := bind_eq_ok.1 hu
    -- only a look-up of a member answers with a series that was there before
    rcases Expr.computed_of_evaluate he with hv | ⟨arg, s, k, rfl, rfl⟩
    · exact .inl hv
    · exact .inr ⟨text, arg, s, k, rfl, hread, rfl⟩

end Session

end Daybook
