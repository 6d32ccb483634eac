import Daybook.Proofs.Evaluation.Basic

/-!
Which fault an evaluation ends with. The parts of an expression are evaluated from the left, and
the first of them without a value decides, at every depth and whatever stands above it or to its
right. A fault is never made twice: it comes from a part whose own parts all have values.
-/

namespace Daybook.Expr

/-- The parts of an expression, from the left. -/
def parts : Expr → List Expr
  | lit _ | name _ => []
  | unary _ e => [e]
  | binary _ a b => [a, b]
  | call _ args => args

/-- The sub-expression at a position: which part, which part of that one, and so on. -/
def at? : Expr → List ℕ → Option Expr
  | e, [] => some e
  | e, i :: p => e.parts[i]?.bind fun d => d.at? p

/-- The sub-expressions that hang to the left of the way down to a position. -/
def leftOf : Expr → List ℕ → List Expr
  | _, [] => []
  | e, i :: p => e.parts.take i ++ e.parts[i]?.elim [] fun d => d.leftOf p

/-- Induction over expressions with one case: what holds of all parts holds of the whole. -/
lemma induct_parts {P : Expr → Prop} (step : ∀ e, (∀ d ∈ e.parts, P d) → P e) (e : Expr) : P e := by
  induction e with
  | lit | name => exact step _ (by simp [parts])
  | unary s e ih => exact step _ (by simpa [parts] using ih)
  | binary o a b iha ihb => exact step _ (by simpa [parts] using ⟨iha, ihb⟩)
  | call f args ih => exact step _ ih

variable (r : Registry) (c : Context)

def HasValue (e : Expr) : Prop := ∃ v, e.evaluate r c = .ok v

variable {r c}

/-- Every expression first evaluates all its parts, and then goes on with their values only. -/
lemma exists_combine (e : Expr) : ∃ combine : List Value → Outcome Value,
    e.evaluate r c = evaluateAll r c e.parts >>= combine := by
  cases e with
  | lit l => exact ⟨fun _ => l.toValue, rfl⟩
  | name w => exact ⟨fun _ => (name w).evaluate r c, rfl⟩
  | unary s e =>
    refine ⟨fun vs => ofFault (s.apply (.ok (vs.getD 0 .none))), ?_⟩
    rw [evaluate_unary, parts, evaluateAll_cons, evaluateAll_nil]
    cases e.evaluate r c <;> rfl
  | binary o a b =>
    refine ⟨fun vs => ofFault (o.apply (.ok (vs.getD 0 .none)) (.ok (vs.getD 1 .none))), ?_⟩
    rw [evaluate_binary, parts, evaluateAll_cons, evaluateAll_cons, evaluateAll_nil]
    cases a.evaluate r c with
    | error stop => rfl
    | ok v => cases b.evaluate r c <;> rfl
  | call f args => exact ⟨Daybook.call r c f, evaluate_call r c f args⟩

lemma hasValue_of_mem {es : List Expr} {vs : List Value} (h : evaluateAll r c es = .ok vs)
    {e : Expr} (he : e ∈ es) : HasValue r c e := by
  induction evaluateAll_eq_ok.1 h with
  | nil => cases he
  | @cons d v ds ws hd hds ih =>
    rcases List.mem_cons.1 he with rfl | he
    · exact ⟨v, hd⟩
    · exact ih (evaluateAll_eq_ok.2 hds) he

lemma evaluateAll_eq_error_iff {es : List Expr} {stop : Stop} :
    evaluateAll r c es = .error stop ↔ ∃ i d, es[i]? = some d ∧
      (∀ a ∈ es.take i, HasValue r c a) ∧ d.evaluate r c = .error stop := by
  induction es with
  | nil => simp
  | cons e es ih =>
    rw [evaluateAll_cons, bind_eq_error]
    constructor
    · -- the head fails, or it has a value and the place moves by one
      rintro (he | ⟨v, hv, hes⟩)
      · exact ⟨0, e, rfl, by simp, he⟩
      · rcases bind_eq_error.1 hes with hes | ⟨vs, -, hvs⟩
        · obtain ⟨i, d, hi, hleft, hd⟩ := ih.1 hes
          refine ⟨i + 1, d, hi, ?_, hd⟩
          rw [List.take_succ_cons]
          exact List.forall_mem_cons.2 ⟨⟨v, hv⟩, hleft⟩
        · cases hvs
    · rintro ⟨i, d, hi, hleft, hd⟩
      cases i with
      | zero =>
        cases hi
        exact .inl hd
      | succ i =>
        rw [List.take_succ_cons] at hleft
        obtain ⟨⟨v, hv⟩, hleft⟩ := List.forall_mem_cons.1 hleft
        refine .inr ⟨v, hv, ?_⟩
        rw [ih.2 ⟨i, d, hi, hleft, hd⟩]
        rfl

/-- One step up: what stops a part stops the whole, if all parts to its left have values. -/
lemma evaluate_eq_error_of_part {e d : Expr} {i : ℕ} {stop : Stop} (hi : e.parts[i]? = some d)
    (hleft : ∀ a ∈ e.parts.take i, HasValue r c a) (hd : d.evaluate r c = .error stop) :
    e.evaluate r c = .error stop := by
  obtain ⟨combine, he⟩ := exists_combine (r := r) (c := c) e
  rw [he, evaluateAll_eq_error_iff.2 ⟨i, d, hi, hleft, hd⟩]
  rfl

/-- One step down: what stops an expression has stopped a part of it, or all its parts have
values. -/
lemma part_of_evaluate_eq_error {e : Expr} {stop : Stop} (h : e.evaluate r c = .error stop) :
    (∀ a ∈ e.parts, HasValue r c a) ∨ ∃ i d, e.parts[i]? = some d ∧
      (∀ a ∈ e.parts.take i, HasValue r c a) ∧ d.evaluate r c = .error stop := by
  obtain ⟨combine, he⟩ := exists_combine (r := r) (c := c) e
  rw [he] at h
  rcases bind_eq_error.1 h with hparts | ⟨vs, hvs, -⟩
  · exact .inr (evaluateAll_eq_error_iff.1 hparts)
  · exact .inl fun a ha => hasValue_of_mem hvs ha

lemma evaluate_eq_error_of_at {e s : Expr} {p : List ℕ} {stop : Stop} (hp : e.at? p = some s)
    (hleft : ∀ a ∈ e.leftOf p, HasValue r c a) (hs : s.evaluate r c = .error stop) :
    e.evaluate r c = .error stop := by
  induction p generalizing e with
  | nil =>
    cases hp
    exact hs
  | cons i p ih =>
    obtain ⟨d, hi, hd⟩ := Option.bind_eq_some_iff.1 hp
    rw [leftOf, hi] at hleft
    refine evaluate_eq_error_of_part hi (fun a ha => hleft a (List.mem_append_left _ ha)) ?_
    exact ih hd fun a ha => hleft a (List.mem_append_right _ ha)

lemma exists_origin {e : Expr} {stop : Stop} (h : e.evaluate r c = .error stop) :
    ∃ p s, e.at? p = some s ∧ (∀ a ∈ e.leftOf p, HasValue r c a) ∧
      s.evaluate r c = .error stop ∧ ∀ a ∈ s.parts, HasValue r c a := by
  induction e using induct_parts with
  | step e ih =>
    rcases part_of_evaluate_eq_error h with hparts | ⟨i, d, hi, hleft, hd⟩
    · exact ⟨[], e, rfl, by simp [leftOf], h, hparts⟩
    · obtain ⟨p, s, hp, hbelow, hs⟩ := ih d (List.mem_of_getElem? hi) hd
      refine ⟨i :: p, s, by rw [at?, hi]; exact hp, fun a ha => ?_, hs⟩
      rw [leftOf, hi] at ha
      rcases List.mem_append.1 ha with ha | ha
      · exact hleft a ha
      · exact hbelow a ha

/-- **The leftmost fault wins and is never changed.** A fault of any sub-expression is the fault of
the whole if everything to its left has a value, and every fault of the whole comes in this way
from a sub-expression all of whose parts have values. -/
theorem leftmost_fault (e : Expr) :
    (∀ p s f, e.at? p = some s → (∀ a ∈ e.leftOf p, HasValue r c a) →
      s.evaluate r c = .fault f → e.evaluate r c = .fault f) ∧
    ∀ f, e.evaluate r c = .fault f → ∃ p s, e.at? p = some s ∧
      (∀ a ∈ e.leftOf p, HasValue r c a) ∧ s.evaluate r c = .fault f ∧
      ∀ a ∈ s.parts, HasValue r c a :=
  ⟨fun _ _ _ hp hleft hs => evaluate_eq_error_of_at hp hleft hs, fun _ h => exists_origin h⟩

/-- A call of no function, whose second argument divides by zero under a sign and whose third one
has a fault of its own. -/
def crowded : Expr :=
  .call "nowhere" [.lit (.text "kept"),
    .unary .minus (.binary .div (.lit (.float 1.0)) (.lit (.float 0.0))), .name "max"]

theorem leftmost_fault_crowded :
    crowded.at? [1, 0] = some (.binary .div (.lit (.float 1.0)) (.lit (.float 0.0))) ∧
      (∀ a ∈ crowded.leftOf [1, 0], HasValue { axis := [] } {} a) ∧
      crowded.evaluate { axis := [] } {} = .fault .divisionByZero :=
  have hleft : ∀ a ∈ crowded.leftOf [1, 0], HasValue { axis := [] } {} a := by
    simp [crowded, leftOf, parts, HasValue, Literal.toValue]
  ⟨rfl, hleft, (leftmost_fault crowded).1 [1, 0] _ .divisionByZero rfl hleft rfl⟩

end Daybook.Expr
