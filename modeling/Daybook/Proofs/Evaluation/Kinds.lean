import Daybook.Proofs.Evaluation.Members

/-!
The kinds of faults that an evaluation can have on any registry at all. Where the days of its
members differ, series may fail to fit together; otherwise the kinds are the same.
-/

namespace Daybook

/-- A fault of an evaluation, of series that do not fit together among others. -/
def Fault.OfEvaluation (f : Fault) : Prop := f.kind.ofEvaluation = true ∨ f.kind = .alignment

lemma ofFault_eq_fault {α : Type} {x : Except Fault α} {f : Fault} :
    ofFault x = .fault f ↔ x = .error f := by
  cases x <;> simp [ofFault, Outcome.fault]

lemma Summary.Figure.ofEvaluation {f : Fault} (h : Figure (.fault f)) : f.OfEvaluation := by
  cases h with
  | fault hf => exact .inl hf

variable {r : Registry} {c : Context} {f : Fault}

lemma Operator.ofEvaluation_of_apply {o : Operator} {v w : Value}
    (h : o.apply (.ok v) (.ok w) = .error f) : f.OfEvaluation := by
  rcases fault_of_apply h with rfl | rfl | rfl | ⟨s, p, t, q, -, -, -, rfl⟩
  · exact .inl rfl
  · exact .inl rfl
  · exact .inl rfl
  · exact .inr rfl

lemma Sign.ofEvaluation_of_apply {s : Sign} {v : Value} (h : s.apply (.ok v) = .error f) :
    f.OfEvaluation := by
  rw [fault_of_apply h]
  exact .inl rfl

lemma Registry.ofEvaluation_of_dataset {vs : List Value} (h : r.dataset vs = .error f) :
    f.OfEvaluation := by
  rcases fault_of_dataset h with ⟨x, rfl⟩ | rfl <;> exact .inl rfl

lemma Reshape.ofEvaluation_of_call {name : String} {g : Reshape} {vs : List Value}
    (h : g.call name vs = .error f) : f.OfEvaluation := by
  rw [Reshape.call.eq_def] at h
  split at h
  · cases h
    exact .inl rfl
  · rcases fault_of_of h with ⟨n, rfl⟩ | ⟨n, rfl⟩ <;> exact .inl rfl
  · cases h
    exact .inl rfl

lemma ofEvaluation_of_call {name : String} {vs : List Value} (h : call r c name vs = .fault f) :
    f.OfEvaluation := by
  rw [call] at h
  split at h
  · exact Registry.ofEvaluation_of_dataset (ofFault_eq_fault.1 h)
  · exact Summary.Figure.ofEvaluation (h ▸ Registry.figure_summarise _ _ _ _ _)
  · exact Reshape.ofEvaluation_of_call (ofFault_eq_fault.1 h)
  · cases h
    exact .inl rfl

/-- Every fault of an evaluation is one of an evaluation: it belongs neither to reading nor to
writing. -/
theorem Expr.ofEvaluation_of_evaluate {e : Expr} (h : e.evaluate r c = .fault f) :
    f.OfEvaluation := by
  induction e with
  | lit l =>
    cases l with
    | int n => exact Summary.Figure.ofEvaluation (h ▸ Summary.figure_ofInt n)
    | float | bool | text | none => cases h
  | name w =>
    rw [evaluate_name] at h
    split at h <;> cases h <;> exact .inl rfl
  | unary s e ih =>
    rw [evaluate_unary] at h
    rcases bind_eq_error.1 h with h | ⟨v, -, h⟩
    · exact ih h
    · exact Sign.ofEvaluation_of_apply (ofFault_eq_fault.1 h)
  | binary o a b iha ihb =>
    rw [evaluate_binary] at h
    rcases bind_eq_error.1 h with h | ⟨v, -, h⟩
    · exact iha h
    rcases bind_eq_error.1 h with h | ⟨w, -, h⟩
    · exact ihb h
    · exact Operator.ofEvaluation_of_apply (ofFault_eq_fault.1 h)
  | call name args ih =>
    rw [evaluate_call] at h
    -- an argument failed, or the call itself
    rcases bind_eq_error.1 h with h | ⟨vs, -, h⟩
    · obtain ⟨d, hd, hstop⟩ := evaluateAll_eq_error h
      exact ih d hd hstop
    · exact ofEvaluation_of_call h

end Daybook
