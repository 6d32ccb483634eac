import Daybook.Proofs.Calendar.Order
import Daybook.Proofs.Evaluation.Members

/-!
The dataset that leads an expression. Every operation derives its series from one operand, the
left one if that is a series, so the target count and the measure of a result are handed down
from a single look-up, however deep it stands. Which look-up that is does not depend on what the
registry holds.
-/

namespace Daybook

variable {r r' : Registry} {c c' : Context} {s t m : Series} {u v w : Value}

lemma Value.isSeries_iff : v.isSeries = true ↔ ∃ s p, v = .series s p := by
  cases v <;> simp [isSeries]

/-! ### The operand that a series is derived from -/

namespace Value.MadeFromFirst

variable {vs : List Value} {p q : Origin}

lemma derives (h : (Value.series t q).MadeFromFirst (.series s p :: vs)) : s.Derives t := by
  rcases h with ⟨x, hx⟩ | ⟨m, p, t, hfind, ht, hderives⟩
  · cases hx
  · cases hfind
    cases ht
    exact hderives

lemma of_cons (h : u.MadeFromFirst (v :: vs)) (hv : v.isSeries = false) : u.MadeFromFirst vs := by
  rcases h with hx | ⟨m, p, t, hfind, ht⟩
  · exact .inl hx
  · rw [List.find?_cons, hv] at hfind
    exact .inr ⟨m, p, t, hfind, ht⟩

lemma ne_nil (h : (Value.series t q).MadeFromFirst vs) : vs ≠ [] := by
  rintro rfl
  rcases h with ⟨x, hx⟩ | ⟨m, p, t, hfind, -⟩
  · cases hx
  · cases hfind

end Value.MadeFromFirst

namespace Expr

variable {d e : Expr} {o : Origin}

/-! ### The leading dataset -/

section

variable (r : Registry) (c : Context)

/-- Whether an expression comes to a series. -/
def givesSeries (e : Expr) : Bool :=
  match e.evaluate r c with
  | .ok v => v.isSeries
  | .error _ => false

mutual

/-- The leading dataset of an expression: of a sign that of its operand, of an operator that of
its left operand if this is a series and else that of its right one, of a reshaped series that of
the first argument. A dataset leads itself. -/
def leading : Expr → Option Expr
  | lit _ | name _ => none
  | unary _ e => leading e
  | binary _ a b => if givesSeries r c a then leading a else leading b
  | .call f args =>
    match Function.ofName? f with
    | some .dataset => some (.call f args)
    | some (.reshape _) => leadingOfFirst args
    | _ => none

def leadingOfFirst : List Expr → Option Expr
  | [] => none
  | e :: _ => leading e

end

/-- A dataset leads to a member that has the target count and the measure of the series. -/
inductive Leads (s : Series) : Expr → Prop
  | member {args : List Expr} {m : Series} {i : ℕ} :
      (call datasetName args).evaluate r c = .ok (.series m (.member i)) →
      r.members[i]? = some m → s.targets = m.targets → s.measure = m.measure →
      Leads s (call datasetName args)

end

lemma Leads.derives (h : Leads r c s d) (ht : s.Derives t) : Leads r c t d := by
  cases h with
  | member hd hm htargets hmeasure =>
    exact .member hd hm (ht.targets_eq.trans htargets) (ht.measure_eq.trans hmeasure)

lemma leading_binary_of_series {g : Operator} {a b : Expr} {p : Origin}
    (ha : a.evaluate r c = .ok (.series s p)) :
    (binary g a b).leading r c = a.leading r c := by
  rw [leading, givesSeries, ha]
  rfl

lemma leading_binary_of_not {g : Operator} {a b : Expr} (ha : a.evaluate r c = .ok v)
    (hv : v.isSeries = false) : (binary g a b).leading r c = b.leading r c := by
  rw [leading, givesSeries, ha]
  simp only [hv, Bool.false_eq_true, if_false]

/-- **Every node hands down** what its leading dataset is and measures. -/
lemma exists_leading (h : e.evaluate r c = .ok (.series s o)) :
    ∃ d, e.leading r c = some d ∧ Leads r c s d := by
  induction e generalizing s o with
  | lit l => exact absurd h l.ne_series
  | name w => cases h
  | unary g e ih =>
    rw [evaluate_unary] at h
    obtain ⟨v, hv, h⟩ := bind_eq_ok.1 h
    have hfirst := (Sign.apply_eq_ok.1 (ofFault_eq_ok.1 h)).madeFromFirst
    rcases hseries : v.isSeries with _ | _
    · exact absurd rfl (hfirst.of_cons hseries).ne_nil
    · obtain ⟨t, p, rfl⟩ := Value.isSeries_iff.1 hseries
      obtain ⟨d, hd, hleads⟩ := ih hv
      exact ⟨d, hd, hleads.derives hfirst.derives⟩
  | binary g a b iha ihb =>
    rw [evaluate_binary] at h
    obtain ⟨v, hv, h⟩ := bind_eq_ok.1 h
    obtain ⟨w, hw, h⟩ := bind_eq_ok.1 h
    have hfirst := (Operator.apply_eq_ok.1 (ofFault_eq_ok.1 h)).madeFromFirst
    rcases hleft : v.isSeries with _ | _
    · -- the right operand has a say only behind a left one that is no series
      have hsecond := hfirst.of_cons hleft
      rcases hright : w.isSeries with _ | _
      · exact absurd rfl (hsecond.of_cons hright).ne_nil
      · obtain ⟨t, p, rfl⟩ := Value.isSeries_iff.1 hright
        obtain ⟨d, hd, hleads⟩ := ihb hw
        exact ⟨d, (leading_binary_of_not hv hleft).trans hd, hleads.derives hsecond.derives⟩
    · obtain ⟨t, p, rfl⟩ := Value.isSeries_iff.1 hleft
      obtain ⟨d, hd, hleads⟩ := iha hv
      exact ⟨d, (leading_binary_of_series hv).trans hd, hleads.derives hfirst.derives⟩
  | call f args ih =>
    rw [evaluate_call] at h
    obtain ⟨vs, hvs, hcall⟩ := bind_eq_ok.1 h
    rw [Daybook.call] at hcall
    rw [leading]
    split at hcall
    · rename_i hf
      obtain rfl : f = datasetName := Function.eq_datasetName hf
      obtain ⟨x, id, i, m, -, -, hget, hm⟩ := Registry.dataset_eq_ok.1 (ofFault_eq_ok.1 hcall)
      cases hm
      refine ⟨_, rfl, .member ?_ (Registry.get?_eq_some_iff.1 hget).1 rfl rfl⟩
      rw [evaluate_call, h]
    · exact absurd rfl (Summary.Figure.ne_series (hcall ▸ Registry.figure_summarise _ _ _ _ _))
    · rename_i g hf
      obtain ⟨t, p, rest, s, rfl, hs, hderives⟩ := Reshape.derives_of_call (ofFault_eq_ok.1 hcall)
      cases hs
      obtain ⟨e, es, he, -, rfl⟩ := List.forall₂_cons_right_iff.1 (evaluateAll_eq_ok.1 hvs)
      obtain ⟨d, hd, hleads⟩ := ih e List.mem_cons_self he
      rw [hf]
      exact ⟨d, hd, hleads.derives hderives⟩
    · cases hcall

/-! ### What is known without a registry -/

/-- Whether an expression comes to a series if it comes to a value. -/
def yieldsSeries : Expr → Bool
  | lit _ | name _ => false
  | unary _ e => yieldsSeries e
  | binary _ a b => yieldsSeries a || yieldsSeries b
  | .call f _ =>
    match Function.ofName? f with
    | some .dataset | some (.reshape _) => true
    | _ => false

lemma isSeries_eq (h : e.evaluate r c = .ok v) : v.isSeries = e.yieldsSeries := by
  induction e generalizing v with
  | lit l =>
    rw [yieldsSeries, Bool.eq_false_iff]
    intro hv
    obtain ⟨s, p, rfl⟩ := Value.isSeries_iff.1 hv
    exact absurd h l.ne_series
  | name w => cases h
  | unary g e ih =>
    rw [evaluate_unary] at h
    obtain ⟨u, hu, h⟩ := bind_eq_ok.1 h
    rw [yieldsSeries, ← ih hu]
    cases Sign.apply_eq_ok.1 (ofFault_eq_ok.1 h) <;> rfl
  | binary g a b iha ihb =>
    rw [evaluate_binary] at h
    obtain ⟨u, hu, h⟩ := bind_eq_ok.1 h
    obtain ⟨w, hw, h⟩ := bind_eq_ok.1 h
    rw [yieldsSeries, ← iha hu, ← ihb hw]
    cases Operator.apply_eq_ok.1 (ofFault_eq_ok.1 h) <;> rfl
  | call f args ih =>
    rw [evaluate_call] at h
    obtain ⟨vs, -, hcall⟩ := bind_eq_ok.1 h
    rw [Daybook.call] at hcall
    rw [yieldsSeries]
    -- a figure is never a series, a dataset and a reshaped series always are
    split at hcall
    · rename_i hf
      obtain ⟨x, id, i, m, -, -, -, rfl⟩ := Registry.dataset_eq_ok.1 (ofFault_eq_ok.1 hcall)
      rw [hf]
      rfl
    · rename_i g hf
      rw [hf, Bool.eq_false_iff]
      intro hv
      obtain ⟨s, p, rfl⟩ := Value.isSeries_iff.1 hv
      exact absurd hcall (Registry.figure_summarise _ _ _ _ _).ne_series
    · rename_i g hf
      obtain ⟨t, p, rest, s, -, rfl, -⟩ := Reshape.derives_of_call (ofFault_eq_ok.1 hcall)
      rw [hf]
      rfl
    · cases hcall

lemma givesSeries_eq (h : e.evaluate r c = .ok v) : e.givesSeries r c = e.yieldsSeries := by
  rw [givesSeries, h]
  exact isSeries_eq h

lemma leading_eq (h : e.evaluate r c = .ok v) (h' : e.evaluate r' c' = .ok w) :
    e.leading r' c' = e.leading r c := by
  induction e generalizing v w with
  | lit | name => rfl
  | unary g e ih =>
    rw [evaluate_unary] at h h'
    obtain ⟨u, hu, -⟩ := bind_eq_ok.1 h
    obtain ⟨u', hu', -⟩ := bind_eq_ok.1 h'
    exact ih hu hu'
  | binary g a b iha ihb =>
    rw [evaluate_binary] at h h'
    obtain ⟨u, hu, h⟩ := bind_eq_ok.1 h
    obtain ⟨z, hz, -⟩ := bind_eq_ok.1 h
    obtain ⟨u', hu', h'⟩ := bind_eq_ok.1 h'
    obtain ⟨z', hz', -⟩ := bind_eq_ok.1 h'
    -- the kind of the left operand is known beforehand, so both go on to the same side
    rw [leading, leading, givesSeries_eq hu, givesSeries_eq hu', iha hu hu', ihb hz hz']
  | call f args ih =>
    rw [evaluate_call] at h h'
    obtain ⟨us, hus, -⟩ := bind_eq_ok.1 h
    obtain ⟨us', hus', -⟩ := bind_eq_ok.1 h'
    rw [leading, leading]
    split
    · rfl
    · cases args with
      | nil => rfl
      | cons e es =>
        rw [evaluateAll_cons] at hus hus'
        obtain ⟨u, hu, -⟩ := bind_eq_ok.1 hus
        obtain ⟨u', hu', -⟩ := bind_eq_ok.1 hus'
        exact ih e List.mem_cons_self hu hu'
    · rfl

/-- **A series follows its leading dataset.** Every expression that comes to a series has a
leading dataset, which comes to a member with the same target count and the same measure, so that
asking for the targets of the one or the other is the same. On every other registry, and for every
other caller, the expression follows the same dataset if it comes to a series at all: no other
dataset in it has a say. -/
theorem follows_leading (h : e.evaluate r c = .ok (.series s o)) :
    ∃ d, e.leading r c = some d ∧ Leads r c s d ∧
      (call "numTargets" [e]).evaluate r c = (call "numTargets" [d]).evaluate r c ∧
      ∀ r' c' s' o', e.evaluate r' c' = .ok (.series s' o') →
        e.leading r' c' = some d ∧ Leads r' c' s' d := by
  obtain ⟨d, hd, hleads⟩ := exists_leading h
  refine ⟨d, hd, hleads, ?_, fun r' c' s' o' h' => ?_⟩
  · have htargets : Function.ofName? "numTargets" = some (.summary .targets) := by decide
    cases hleads with
    | member hm hi hs hmeasure =>
      rw [evaluate_summary htargets (.given h), evaluate_summary htargets (.given hm)]
      simp only [Summary.of, hs]
  · obtain ⟨d', hd', hleads'⟩ := exists_leading h'
    obtain rfl : d = d' := by
      rw [leading_eq h h', hd, Option.some_inj] at hd'
      exact hd'
    exact ⟨hd', hleads'⟩

/-- A day with two series that have other targets and measure other things. -/
def twoMeasures : Registry :=
  let axis := [(Date.of? 2024 2 29).get Date.isSome_february29]
  { axis
    members := [
      { entries := Series.zipEntries axis [some 7.0], id := 1, targets := 3, measure := .time },
      { entries := Series.zipEntries axis [none], id := 2, targets := 5, measure := .date }] }

/-- A number before the second series with its gap filled, less the first one. -/
def scaled : Expr :=
  .binary .sub
    (.binary .mul (.lit (.int 2))
      (.unary .minus (.call "setMissingValues" [.call datasetName [.lit (.int 2)], .lit (.int 1)])))
    (.call datasetName [.lit (.int 1)])

theorem follows_leading_scaled : ∃ s d, scaled.evaluate twoMeasures {} = .ok (.series s .fresh) ∧
    scaled.leading twoMeasures {} = some d ∧ d = .call datasetName [.lit (.int 2)] ∧
    s.targets = 5 ∧ s.measure = .date ∧ Leads twoMeasures {} s d := by
  obtain ⟨d, hd, hleads, -⟩ := follows_leading (e := scaled) (r := twoMeasures) (c := {}) rfl
  cases hd
  exact ⟨_, _, rfl, rfl, rfl, rfl, rfl, hleads⟩

end Expr

end Daybook
