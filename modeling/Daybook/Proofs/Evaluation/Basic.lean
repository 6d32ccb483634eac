import Mathlib.Data.List.Forall2
import Daybook.Expr.Evaluate

/-!
Evaluation node by node: a sign, an operator or a call goes on with the values of its parts,
and the first part without a value ends it. Induction over expressions reaches every argument
of a call.
-/

namespace Daybook

section Except

variable {ε α β : Type} {x : Except ε α} {f : α → Except ε β}

@[simp] lemma ok_bind (a : α) (f : α → Except ε β) : (Except.ok a >>= f) = f a := rfl

@[simp] lemma error_bind (e : ε) (f : α → Except ε β) : (Except.error e >>= f) = .error e := rfl

lemma bind_eq_ok {b : β} : (x >>= f) = .ok b ↔ ∃ a, x = .ok a ∧ f a = .ok b := by
  cases x <;> simp

lemma bind_eq_error {e : ε} :
    (x >>= f) = .error e ↔ x = .error e ∨ ∃ a, x = .ok a ∧ f a = .error e := by
  cases x <;> simp

lemma toOption_eq_some {a : α} : x.toOption = some a ↔ x = .ok a := by
  cases x <;> simp [Except.toOption]

def errorOf? : Except ε α → Option ε
  | .error e => some e
  | .ok _ => none

lemma errorOf?_eq_some {e : ε} : errorOf? x = some e ↔ x = .error e := by
  cases x <;> simp [errorOf?]

end Except

@[simp] lemma ofFault_eq_ok {α : Type} {x : Except Fault α} {a : α} :
    ofFault x = .ok a ↔ x = .ok a := by
  cases x <;> simp [ofFault, Outcome.fault]

lemma Function.eq_datasetName {name : String} (h : ofName? name = some .dataset) :
    name = datasetName := by
  rw [ofName?] at h
  split at h
  · assumption
  · split at h
    · cases h
    · simp at h

namespace Expr

/-- Induction over expressions, with the hypothesis for every argument of a call. -/
@[elab_as_elim, induction_eliminator]
theorem induct {P : Expr → Prop} (lit : ∀ l, P (.lit l)) (name : ∀ w, P (.name w))
    (unary : ∀ s e, P e → P (.unary s e)) (binary : ∀ o a b, P a → P b → P (.binary o a b))
    (call : ∀ f args, (∀ e ∈ args, P e) → P (.call f args)) : ∀ e, P e
  | .lit l => lit l
  | .name w => name w
  | .unary s e => unary s e (induct lit name unary binary call e)
  | .binary o a b =>
    binary o a b (induct lit name unary binary call a) (induct lit name unary binary call b)
  | .call f args => call f args fun e _ => induct lit name unary binary call e

variable (r : Registry) (c : Context)

def evaluateAll (es : List Expr) : Outcome (List Value) := (runAll r c es).2

@[simp] lemma evaluate_lit (l : Literal) : (lit l).evaluate r c = l.toValue := rfl

@[simp] lemma evaluate_name (w : String) : (name w).evaluate r c =
    .fault (if isFunction w then .bareName w else .unknownFunction w) := rfl

lemma evaluate_unary (s : Sign) (e : Expr) :
    (unary s e).evaluate r c = e.evaluate r c >>= fun v => ofFault (s.apply (.ok v)) := by
  simp only [evaluate, run]
  rcases run r c e with ⟨_, _ | _⟩ <;> rfl

lemma evaluate_binary (o : Operator) (a b : Expr) :
    (binary o a b).evaluate r c = a.evaluate r c >>= fun v => b.evaluate r c >>= fun w =>
      ofFault (o.apply (.ok v) (.ok w)) := by
  simp only [evaluate, run]
  rcases run r c a with ⟨_, _ | _⟩
  · rfl
  · rcases run r c b with ⟨_, _ | _⟩ <;> rfl

lemma evaluate_call (f : String) (args : List Expr) :
    (call f args).evaluate r c = evaluateAll r c args >>= Daybook.call r c f := by
  simp only [evaluate, evaluateAll, run]
  rcases runAll r c args with ⟨_, _ | _⟩ <;> rfl

@[simp] lemma evaluateAll_nil : evaluateAll r c [] = .ok [] := rfl

lemma evaluateAll_cons (e : Expr) (es : List Expr) :
    evaluateAll r c (e :: es) = e.evaluate r c >>= fun v => evaluateAll r c es >>= fun vs =>
      .ok (v :: vs) := by
  simp only [evaluate, evaluateAll, runAll]
  rcases run r c e with ⟨_, _ | _⟩
  · rfl
  · rcases runAll r c es with ⟨_, _ | _⟩ <;> rfl

variable {r c}

lemma evaluateAll_eq_ok {es : List Expr} {vs : List Value} :
    evaluateAll r c es = .ok vs ↔ List.Forall₂ (fun e v => e.evaluate r c = .ok v) es vs := by
  induction es generalizing vs with
  | nil => simp [eq_comm (b := vs)]
  | cons e es ih =>
    rw [evaluateAll_cons, bind_eq_ok]
    simp only [bind_eq_ok, ih, Except.ok.injEq, List.forall₂_cons_left_iff]
    constructor
    · rintro ⟨v, hv, ws, hws, rfl⟩
      exact ⟨v, ws, hv, hws, rfl⟩
    · rintro ⟨v, ws, hv, hws, rfl⟩
      exact ⟨v, hv, ws, hws, rfl⟩

lemma evaluateAll_eq_error {es : List Expr} {stop : Stop} (h : evaluateAll r c es = .error stop) :
    ∃ e ∈ es, e.evaluate r c = .error stop := by
  induction es with
  | nil => simp at h
  | cons e es ih =>
    rw [evaluateAll_cons] at h
    rcases bind_eq_error.1 h with he | ⟨v, -, he⟩
    · exact ⟨e, by simp, he⟩
    · rcases bind_eq_error.1 he with hs | ⟨vs, -, hs⟩
      · obtain ⟨d, hd, hstop⟩ := ih hs
        exact ⟨d, by simp [hd], hstop⟩
      · simp at hs

lemma exists_of_mem_evaluateAll {es : List Expr} {vs : List Value}
    (h : evaluateAll r c es = .ok vs) {v : Value} (hv : v ∈ vs) :
    ∃ e ∈ es, e.evaluate r c = .ok v := by
  induction evaluateAll_eq_ok.1 h with
  | nil => simp at hv
  | @cons e w es ws he hes ih =>
    rcases List.mem_cons.1 hv with rfl | hv
    · exact ⟨e, by simp, he⟩
    · obtain ⟨d, hd, hdv⟩ := ih (evaluateAll_eq_ok.2 hes) hv
      exact ⟨d, by simp [hd], hdv⟩

end Expr

end Daybook
