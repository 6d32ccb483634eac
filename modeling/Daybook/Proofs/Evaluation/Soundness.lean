import Daybook.Proofs.Calendar.Order
import Daybook.Proofs.Evaluation.Members
import Daybook.Proofs.Series.Edits

/-!
What an evaluation can come to. On a registry that has been built up from an axis, every series
in an evaluation has the days of that axis, so that series never fail to fit together; and what
comes out is a number, a day, a series on the axis, a fault of the right kind, or a literal.
-/

namespace Daybook

/-- A registry that has been built up: from an axis of days, by creating series on it, by adding
series that fit, and by changing registered series in place. -/
inductive Registry.Built : Registry → Prop
  | axis (days : List Date) : Built { axis := days }
  | range {a b : Date} {r : Registry} : Registry.ofRange a b = .ok r → Built r
  | create {r : Registry} (id : Int) (name : Option Points) (measure : Measure) (usedAsX : Bool) :
      Built r → Built { r with members := r.members ++ [r.blankSeries id name measure usedAsX] }
  | add {r r' : Registry} {s : Series} : Built r → r.add s = .ok r' → Built r'
  | edit {r : Registry} {i : ℕ} {s t : Series} : Built r → r.members[i]? = some s →
      s.Edited t → Built { r with members := r.members.set i t }

/-- **The invariant of a registry**: every member has the days of the axis. -/
theorem Registry.Built.dates_eq {r : Registry} (h : r.Built) :
    ∀ s ∈ r.members, s.dates = r.axis := by
  induction h with
  | axis days => simp
  | @range a b r h =>
    rw [Registry.ofRange] at h
    split at h <;> cases h
    simp
  | create id name measure usedAsX _ ih =>
    intro s hs
    rcases List.mem_append.1 hs with hs | hs
    · exact ih s hs
    · rw [List.mem_singleton.1 hs]
      simp [Registry.blankSeries, Series.dates, Function.comp_def]
  | @add r r' s _ h ih =>
    rw [Registry.add] at h
    split at h <;> cases h
    rename_i hd
    intro t ht
    rcases List.mem_append.1 ht with ht | ht
    · exact ih t ht
    · rw [List.mem_singleton.1 ht, hd]
  | @edit r i s t _ hi he ih =>
    intro u hu
    rcases List.mem_or_eq_of_mem_set hu with hu | rfl
    · exact ih u hu
    · rw [he.dates_eq]
      exact ih s (List.mem_of_getElem? hi)

/-- What the evaluation of `e` on the registry `r` may come to. -/
inductive Registry.Sound (r : Registry) (e : Expr) : Outcome Value → Prop
  | number (x : Float) : Sound r e (.ok (.number x))
  | day (d : Date) : Sound r e (.ok (.moment (.day d)))
  /-- A member of the registry is the value of a dataset only. -/
  | member {i : ℕ} {s : Series} {arg : Expr} : r.members[i]? = some s → s.dates = r.axis →
      s.length = r.axis.length → e = .call datasetName [arg] →
      Sound r e (.ok (.series s (.member i)))
  | fresh {s : Series} : s.dates = r.axis → s.length = r.axis.length → s.id = -1 →
      s.name = "tmp" → s.isClone = true → s.usedAsX = false → Sound r e (.ok (.series s .fresh))
  | flag {b : Bool} : e = .lit (.bool b) → Sound r e (.ok (.flag b))
  | text {s : Points} : e = .lit (.text s) → Sound r e (.ok (.text s))
  | nothing : e = .lit .none → Sound r e (.ok .none)
  | fault {f : Fault} : f.kind.ofEvaluation = true → Sound r e (.fault f)
  | overflow {a : Abort} : a.isOverflow = true → Sound r e (.abort a)

def Value.OnAxis (axis : List Date) : Value → Prop
  | .series s _ => s.dates = axis
  | _ => True

namespace Registry

variable {r : Registry} {e : Expr}

lemma Sound.onAxis {v : Value} (h : r.Sound e (.ok v)) : v.OnAxis r.axis := by
  cases h <;> first | assumption | exact trivial

lemma Sound.error {d : Expr} {stop : Stop} (h : r.Sound d (.error stop)) :
    r.Sound e (.error stop) := by
  cases h with
  | fault h => exact .fault h
  | overflow h => exact .overflow h

lemma sound_of_madeFrom {vs : List Value} {u : Value} (hvs : ∀ v ∈ vs, v.OnAxis r.axis)
    (h : u.MadeFrom vs) : r.Sound e (.ok u) := by
  rcases h with ⟨x, rfl⟩ | ⟨s, p, t, hs, rfl, ht⟩
  · exact .number x
  · have hd : t.dates = r.axis := ht.dates_eq.trans (hvs _ hs)
    have hl : t.length = r.axis.length := by rw [← hd, Series.length_dates]
    obtain ⟨es, rfl, -⟩ := ht
    exact .fresh hd hl rfl rfl rfl rfl

lemma sound_apply_sign {s : Sign} {v : Value} (hv : v.OnAxis r.axis) :
    r.Sound e (ofFault (s.apply (.ok v))) := by
  rcases h : s.apply (.ok v) with f | u
  · rw [Sign.fault_of_apply h]
    exact .fault rfl
  · refine sound_of_madeFrom ?_ (Sign.apply_eq_ok.1 h).madeFrom
    simpa using hv

lemma sound_apply_operator {o : Operator} {v w : Value} (hv : v.OnAxis r.axis)
    (hw : w.OnAxis r.axis) : r.Sound e (ofFault (o.apply (.ok v) (.ok w))) := by
  rcases h : o.apply (.ok v) (.ok w) with f | u
  · rcases Operator.fault_of_apply h with rfl | rfl | rfl | ⟨s, p, t, q, rfl, rfl, hd, -⟩
    · exact .fault rfl
    · exact .fault rfl
    · exact .fault rfl
    · exact absurd (hv.trans hw.symm) hd
  · refine sound_of_madeFrom ?_ (Operator.apply_eq_ok.1 h).madeFrom
    simpa using ⟨hv, hw⟩

lemma sound_figure {v : Outcome Value} (h : Summary.Figure v) : r.Sound e v := by
  cases h with
  | number x => exact .number x
  | day d => exact .day d
  | fault h => exact .fault h
  | overflow h => exact .overflow h

lemma sound_literal (l : Literal) : r.Sound (.lit l) l.toValue := by
  cases l with
  | int n => exact sound_figure (Summary.figure_ofInt n)
  | float x => exact .number x
  | bool b => exact .flag rfl
  | text s => exact .text rfl
  | none => exact .nothing rfl

lemma sound_dataset (hr : ∀ s ∈ r.members, s.dates = r.axis) {vs : List Value}
    (he : ∀ v, vs = [v] → ∃ arg, e = .call datasetName [arg]) :
    r.Sound e (ofFault (r.dataset vs)) := by
  rcases h : r.dataset vs with f | v
  · rcases fault_of_dataset h with ⟨x, rfl⟩ | rfl <;> exact .fault rfl
  · obtain ⟨x, id, i, s, rfl, -, hget, rfl⟩ := dataset_eq_ok.1 h
    have hs := (get?_eq_some_iff.1 hget).1
    have hd := hr s (List.mem_of_getElem? hs)
    obtain ⟨arg, harg⟩ := he _ rfl
    exact .member hs hd (by rw [← hd, Series.length_dates]) harg

lemma sound_reshape {f : Reshape} {name : String} {vs : List Value}
    (hvs : ∀ v ∈ vs, v.OnAxis r.axis) : r.Sound e (ofFault (f.call name vs)) := by
  rcases h : f.call name vs with g | u
  · rw [Reshape.call.eq_def] at h
    split at h
    · cases h
      exact .fault rfl
    · rcases Reshape.fault_of_of h with ⟨n, rfl⟩ | ⟨n, rfl⟩ <;> exact .fault rfl
    · cases h
      exact .fault rfl
  · exact sound_of_madeFrom hvs (Reshape.madeFrom_of_call h)

lemma sound_call (hr : ∀ s ∈ r.members, s.dates = r.axis) (c : Context) {f : String}
    {args : List Expr} {vs : List Value} (hlen : args.length = vs.length)
    (hvs : ∀ v ∈ vs, v.OnAxis r.axis) : r.Sound (.call f args) (call r c f vs) := by
  rw [call]
  split
  · rename_i hf
    have hname : f = datasetName := Function.eq_datasetName hf
    refine sound_dataset hr fun v hv => ?_
    subst hname hv
    obtain ⟨arg, rfl⟩ := List.length_eq_one_iff.1 hlen
    exact ⟨arg, rfl⟩
  · exact sound_figure (figure_summarise _ _ _ _ _)
  · exact sound_reshape hvs
  · exact .fault rfl

end Registry

/-- **Evaluation is sound.** On a registry that has been built up, every expression comes to what
an evaluation may come to. -/
theorem Expr.evaluate_sound {r : Registry} (hr : r.Built) (c : Context) (e : Expr) :
    r.Sound e (e.evaluate r c) := by
  induction e with
  | lit l => exact Registry.sound_literal l
  | name w =>
    rw [evaluate_name]
    split <;> exact .fault rfl
  | unary s e ih =>
    rw [evaluate_unary]
    rcases h : e.evaluate r c with stop | v
    · exact (h ▸ ih).error
    · exact Registry.sound_apply_sign (h ▸ ih).onAxis
  | binary o a b iha ihb =>
    rw [evaluate_binary]
    -- the left operand comes first, so its error wins
    rcases ha : a.evaluate r c with stop | v
    · exact (ha ▸ iha).error
    · rcases hb : b.evaluate r c with stop | w
      · exact (hb ▸ ihb).error
      · exact Registry.sound_apply_operator (ha ▸ iha).onAxis (hb ▸ ihb).onAxis
  | call f args ih =>
    rw [evaluate_call]
    rcases h : evaluateAll r c args with stop | vs
    · obtain ⟨e, he, hstop⟩ := evaluateAll_eq_error h
      exact (hstop ▸ ih e he).error
    · refine Registry.sound_call hr.dates_eq c (evaluateAll_eq_ok.1 h).length_eq fun v hv => ?_
      obtain ⟨e, he, hev⟩ := exists_of_mem_evaluateAll h hv
      exact (hev ▸ ih e he).onAxis

/-- Two days with one series, which has a value on the first of them. -/
def Registry.leapDays : Registry :=
  let days : Registry :=
    { axis := [(Date.of? 2024 2 28).get Date.isSome_february28,
        (Date.of? 2024 2 29).get Date.isSome_february29] }
  { days with
    members := [((days.blankSeries 1 none .number false).setValue
      ((Date.of? 2024 2 28).get Date.isSome_february28) 2.0).1] }

theorem Expr.evaluate_sound_leapDays :
    Registry.leapDays.Built ∧ Registry.leapDays.Sound
      (.binary .div (.call datasetName [.lit (.int 1)]) (.lit (.float 4.0)))
      (Expr.evaluate Registry.leapDays {}
        (.binary .div (.call datasetName [.lit (.int 1)]) (.lit (.float 4.0)))) :=
  have hr : Registry.leapDays.Built :=
    .edit (i := 0) (.create 1 none .number false (.axis _)) rfl (.setValue _ _)
  ⟨hr, Expr.evaluate_sound hr {} _⟩

end Daybook
