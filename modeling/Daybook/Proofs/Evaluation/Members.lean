import Daybook.Proofs.Evaluation.Basic
import Daybook.Proofs.Figures
import Daybook.Proofs.Operation

/-!
Members that are looked up, and values that are made. A registry answers an id with the first
member that has it, so a member can be hidden by another one in front of it. An expression comes
to a member only where it is itself a look-up; any other series is made on the way, with figures
computed from its values.
-/

namespace Daybook

variable {r : Registry} {c : Context} {id : Int} {i : ℕ} {s : Series}

namespace Registry

lemma get?_eq_some_iff : r.get? id = some (i, s) ↔ r.members[i]? = some s ∧ s.id = id ∧
    ∀ j < i, ∀ t, r.members[j]? = some t → t.id ≠ id := by
  rw [get?, Option.bind_eq_some_iff]
  constructor
  · rintro ⟨k, hk, hs⟩
    obtain ⟨t, ht, heq⟩ := Option.map_eq_some_iff.1 hs
    cases heq
    obtain ⟨hlt, hid, hbefore⟩ := List.findIdx?_eq_some_iff_getElem.1 hk
    obtain rfl : r.members[i] = s := by rwa [List.getElem?_eq_getElem hlt, Option.some_inj] at ht
    refine ⟨ht, beq_iff_eq.1 hid, fun j hj u hu hne => ?_⟩
    obtain ⟨hjlt, rfl⟩ := List.getElem?_eq_some_iff.1 hu
    exact hbefore j hj (beq_iff_eq.2 hne)
  · rintro ⟨hs, rfl, hbefore⟩
    obtain ⟨hlt, rfl⟩ := List.getElem?_eq_some_iff.1 hs
    refine ⟨i, List.findIdx?_eq_some_iff_getElem.2 ⟨hlt, beq_iff_eq.2 rfl, fun j hj hid => ?_⟩, ?_⟩
    · exact hbefore j hj _ (List.getElem?_eq_getElem (Nat.lt_trans hj hlt)) (beq_iff_eq.1 hid)
    · rw [hs, Option.map_some]

lemma get?_id_iff_nodup : (∀ i s, r.members[i]? = some s → r.get? s.id = some (i, s)) ↔
    (r.members.map (·.id)).Nodup := by
  rw [List.Nodup, List.pairwise_map, List.pairwise_iff_getElem]
  constructor
  · intro h i k hi hk hlt heq
    have hfirst := h i _ (List.getElem?_eq_getElem hi)
    rw [heq, h k _ (List.getElem?_eq_getElem hk)] at hfirst
    cases hfirst
    exact Nat.lt_irrefl _ hlt
  · intro h i s hs
    obtain ⟨hi, rfl⟩ := List.getElem?_eq_some_iff.1 hs
    refine get?_eq_some_iff.2 ⟨hs, rfl, fun k hlt t ht => ?_⟩
    obtain ⟨hk, rfl⟩ := List.getElem?_eq_some_iff.1 ht
    exact h k i hk hi hlt

lemma dataset_eq_ok {vs : List Value} {v : Value} : r.dataset vs = .ok v ↔
    ∃ x id i s, vs = [.number x] ∧ Number.whole? x = some id ∧ r.get? id = some (i, s) ∧
      v = .series s (.member i) := by
  rw [dataset.eq_def]
  constructor
  · intro h
    split at h
    · split at h <;> cases h
      rename_i hs
      obtain ⟨id, hid, hget⟩ := Option.bind_eq_some_iff.1 hs
      exact ⟨_, id, _, _, rfl, hid, hget, rfl⟩
    · cases h
  · rintro ⟨x, id, i, s, rfl, hid, hget, rfl⟩
    simp only [hid, Option.bind_some, hget]

lemma fault_of_dataset {vs : List Value} {f : Fault} (h : r.dataset vs = .error f) :
    (∃ x, f = .noSuchDataset x) ∨ f = .datasetArgument := by
  rw [dataset.eq_def] at h
  split at h
  · split at h <;> cases h
    exact .inl ⟨_, rfl⟩
  · cases h
    exact .inr rfl

end Registry

/-! ### Values that operations and expressions make -/

/-- A value that is no series, or a series that is no member and whose figures have just been
computed. -/
def Value.Computed (v : Value) : Prop :=
  ∀ t p, v = .series t p → p = .fresh ∧ t.stats = Stats.ofEntries t.entries

lemma Value.MadeFrom.computed {vs : List Value} {v : Value} (h : v.MadeFrom vs) : v.Computed := by
  intro t p hv
  rcases h with ⟨x, rfl⟩ | ⟨s, q, t, -, rfl, ht⟩ <;> cases hv
  exact ⟨rfl, ht.stats_eq⟩

lemma Operator.computed_of_apply {o : Operator} {a b : Operand} {v : Value}
    (h : o.apply a b = .ok v) : v.Computed := by
  rcases a with f | u
  · cases h
  rcases b with f | w
  · cases h
  · exact (apply_eq_ok.1 h).madeFrom.computed

lemma Sign.computed_of_apply {s : Sign} {a : Operand} {v : Value} (h : s.apply a = .ok v) :
    v.Computed := by
  rcases a with f | u
  · cases s <;> cases h
  · exact (apply_eq_ok.1 h).madeFrom.computed

lemma computed_of_applyBinary {operator : String} {a b : Operand} {v : Value}
    (h : applyBinary operator a b = .ok v) : v.Computed := by
  rw [applyBinary] at h
  split at h
  · exact Operator.computed_of_apply h
  · cases h

lemma computed_of_applyUnary {operator : String} {a : Operand} {v : Value}
    (h : applyUnary operator a = .ok v) : v.Computed := by
  rw [applyUnary] at h
  split at h
  · exact Sign.computed_of_apply h
  · cases h

lemma Reshape.computed_of_of {f : Reshape} {s : Series} {args : List Operand} {v : Value}
    (h : f.of s args = .ok v) : v.Computed := by
  intro t p hv
  obtain ⟨t, rfl, ht⟩ := derives_of_eq_ok h
  cases hv
  exact ⟨rfl, ht.stats_eq⟩

lemma Summary.Figure.computed {v : Value} (h : Figure (.ok v)) : v.Computed := by
  rintro t p rfl
  exact absurd rfl h.ne_series

lemma Literal.ne_series (l : Literal) {t : Series} {p : Origin} : l.toValue ≠ .ok (.series t p) := by
  cases l with
  | int n => exact (Summary.figure_ofInt n).ne_series
  | float | bool | text | none => nofun

lemma Literal.computed_of_toValue {l : Literal} {v : Value} (h : l.toValue = .ok v) :
    v.Computed := by
  rintro t p rfl
  exact absurd h l.ne_series

lemma computed_of_call {f : String} {args : List Value} {v : Value}
    (h : call r c f args = .ok v) :
    v.Computed ∨ f = datasetName ∧ ∃ s k x, v = .series s (.member k) ∧ args = [.number x] := by
  rw [call] at h
  split at h
  · have hf : f = datasetName := Function.eq_datasetName ‹_›
    obtain ⟨x, id, i, s, rfl, -, -, rfl⟩ := Registry.dataset_eq_ok.1 (ofFault_eq_ok.1 h)
    exact .inr ⟨hf, s, i, x, rfl, rfl⟩
  · exact .inl (Summary.Figure.computed (h ▸ Registry.figure_summarise _ _ _ _ _))
  · exact .inl (Reshape.madeFrom_of_call (ofFault_eq_ok.1 h)).computed
  · cases h

/-- **An expression makes its value, unless it is itself a look-up of a member.** -/
lemma Expr.computed_of_evaluate {e : Expr} {v : Value}
    (h : e.evaluate r c = .ok v) :
    v.Computed ∨ ∃ arg s k, e = .call datasetName [arg] ∧ v = .series s (.member k) := by
  cases e with
  | lit l => exact .inl (Literal.computed_of_toValue h)
  | name w => cases h
  | unary s e =>
    rw [evaluate_unary] at h
    obtain ⟨u, -, h⟩ := bind_eq_ok.1 h
    exact .inl (Sign.computed_of_apply (ofFault_eq_ok.1 h))
  | binary o a b =>
    rw [evaluate_binary] at h
    obtain ⟨u, -, h⟩ := bind_eq_ok.1 h
    obtain ⟨w, -, h⟩ := bind_eq_ok.1 h
    exact .inl (Operator.computed_of_apply (ofFault_eq_ok.1 h))
  | call f args =>
    rw [evaluate_call] at h
    obtain ⟨vs, hvs, h⟩ := bind_eq_ok.1 h
    -- a member comes from a call of one argument only
    rcases computed_of_call h with hv | ⟨rfl, s, k, x, rfl, rfl⟩
    · exact .inl hv
    · obtain ⟨arg, es, -, hes, rfl⟩ := List.forall₂_cons_right_iff.1 (evaluateAll_eq_ok.1 hvs)
      rw [List.forall₂_nil_right_iff.1 hes]
      exact .inr ⟨arg, s, k, rfl, rfl⟩

/-! ### Members that are looked up -/

namespace Expr

lemma evaluate_dataset (args : List Expr) : (call datasetName args).evaluate r c =
    evaluateAll r c args >>= fun vs => ofFault (r.dataset vs) :=
  evaluate_call r c datasetName args

/-- **A member that an expression comes to is a member indeed**, at its place. -/
lemma member_of_evaluate {e : Expr} (h : e.evaluate r c = .ok (.series s (.member i))) :
    r.members[i]? = some s := by
  rcases computed_of_evaluate h with hs | ⟨arg, t, k, rfl, heq⟩
  · cases (hs s _ rfl).1
  · rw [evaluate_dataset] at h
    obtain ⟨vs, -, h⟩ := bind_eq_ok.1 h
    obtain ⟨x, id, j, u, -, -, hget, hv⟩ := Registry.dataset_eq_ok.1 (ofFault_eq_ok.1 h)
    cases hv
    exact (Registry.get?_eq_some_iff.1 hget).1

/-! ### Figures that are asked for -/

variable {args : List Expr} {name : String} {f : Summary}

/-- The series that a figure is asked of: the value of the only argument, or the first plotted
series where there is none. -/
inductive About (r : Registry) (c : Context) : List Expr → Series → Prop
  | given {x : Expr} {s : Series} {o : Origin} : x.evaluate r c = .ok (.series s o) →
      About r c [x] s
  | plotted {s : Series} : r.default? = some s → About r c [] s

lemma evaluate_summary (hf : Function.ofName? name = some (.summary f)) (h : About r c args s) :
    (call name args).evaluate r c = f.of c s := by
  cases h with
  | given hx =>
    rw [evaluate_call, evaluateAll_cons, hx, evaluateAll_nil]
    simp only [ok_bind, Daybook.call, hf, Registry.summarise]
  | plotted hs =>
    rw [evaluate_call, evaluateAll_nil]
    simp only [ok_bind, Daybook.call, hf, Registry.summarise, hs]

lemma evaluate_summary_of_none (hf : Function.ofName? name = some (.summary f))
    (h : r.default? = none) : (call name []).evaluate r c = .fault (.noDefaultDataset name) := by
  rw [evaluate_call, evaluateAll_nil]
  simp only [ok_bind, Daybook.call, hf, Registry.summarise, h]

end Expr

end Daybook
