import Daybook.Proofs.Evaluation.Members

/-!
Arithmetic on series is arithmetic on days. An expression of numbers and datasets has, on each
day, the value of the same expression with the numbers of that day written in place of the
datasets, and it is absent on the days on which one of its datasets is.
-/

namespace Daybook

def Literal.isNumber : Literal → Bool
  | .int _ | .float _ => true
  | _ => false

/-- The series that `dataset` finds for a literal id. -/
def Registry.written? (r : Registry) (l : Literal) : Option Series :=
  match l.toValue with
  | .ok (.number x) => ((Number.whole? x).bind r.get?).map (·.2)
  | _ => none

namespace Expr

/-- Numbers and datasets with a written id, put together with signs and operators. -/
inductive Arithmetic : Expr → Prop
  | number {l : Literal} : l.isNumber = true → Arithmetic (.lit l)
  | dataset {l : Literal} : Arithmetic (.call datasetName [.lit l])
  | unary {s : Sign} {e : Expr} : Arithmetic e → Arithmetic (.unary s e)
  | binary {o : Operator} {a b : Expr} : Arithmetic a → Arithmetic b → Arithmetic (.binary o a b)

variable (r : Registry)

/-- The series that the datasets of an expression name, from the left to the right. -/
def named : Expr → List Series
  | .unary _ e => named e
  | .binary _ a b => named a ++ named b
  | .call f [.lit l] => if f = datasetName then (r.written? l).toList else []
  | _ => []

/-- The expression with the values of the `k`th day in place of its datasets. -/
def onDay (k : ℕ) : Expr → Expr
  | .unary s e => .unary s (onDay k e)
  | .binary o a b => .binary o (onDay k a) (onDay k b)
  | .call f [.lit l] =>
    match if f = datasetName then (r.written? l).bind (·.valueOn k) else none with
    | some x => .lit (.float x)
    | none => .call f [.lit l]
  | e => e

variable {r} {c : Context}

/-- What the value of an expression says about single days. A number belongs to an expression
without datasets, and a series to one whose datasets have the days of the series. -/
def Agrees (r : Registry) (c : Context) (e : Expr) : Value → Prop
  | .number x => e.named r = [] ∧ ∀ k, (e.onDay r k).evaluate r c = .ok (.number x)
  | .series s _ => e.named r ≠ [] ∧ (∀ t ∈ e.named r, t.dates = s.dates) ∧ ∀ k,
      (s.valueOn k = none ↔ ∃ t ∈ e.named r, t.valueOn k = none) ∧
      ∀ x, s.valueOn k = some x → (e.onDay r k).evaluate r c = .ok (.number x)
  | _ => False

lemma written?_of_dataset {l : Literal} {v w : Value} (hl : l.toValue = .ok w)
    (h : r.dataset [w] = .ok v) : ∃ s i, v = .series s (.member i) ∧ r.written? l = some s := by
  obtain ⟨x, id, i, s, hw, hid, hget, rfl⟩ := Registry.dataset_eq_ok.1 h
  cases hw
  exact ⟨s, i, rfl, by simp [Registry.written?, hl, hid, hget]⟩

lemma agrees_dataset {l : Literal} {v : Value}
    (h : (call datasetName [.lit l]).evaluate r c = .ok v) :
    Agrees r c (call datasetName [.lit l]) v := by
  rw [evaluate_call, evaluateAll_cons, evaluate_lit] at h
  obtain ⟨ws, hws, h⟩ := bind_eq_ok.1 h
  obtain ⟨w, hl, hw⟩ := bind_eq_ok.1 hws
  cases hw
  obtain ⟨s, i, rfl, hs⟩ := written?_of_dataset hl (ofFault_eq_ok.1 h)
  refine ⟨by simp [named, hs], by simp [named, hs], fun k => ⟨by simp [named, hs], ?_⟩⟩
  intro x hx
  simp [onDay, hs, hx, Literal.toValue]

lemma agrees_number {l : Literal} (hn : l.isNumber = true) {v : Value}
    (h : (lit l).evaluate r c = .ok v) : Agrees r c (lit l) v := by
  have hv : ∃ x, v = .number x := by
    cases l with
    | int n =>
      simp only [evaluate_lit, Literal.toValue, Summary.ofInt] at h
      split at h <;> cases h
      exact ⟨_, rfl⟩
    | float x =>
      cases h
      exact ⟨x, rfl⟩
    | _ => cases hn
  obtain ⟨x, rfl⟩ := hv
  exact ⟨rfl, fun k => h⟩

lemma Agrees.unary {s : Sign} {e : Expr} {v u : Value} (he : Agrees r c e v) (h : s.Turns v u) :
    Agrees r c (unary s e) u := by
  cases h with
  | minusNumber => exact ⟨he.1, fun k => by rw [onDay, evaluate_unary, he.2 k]; rfl⟩
  | plusNumber => exact ⟨he.1, fun k => by rw [onDay, evaluate_unary, he.2 k]; rfl⟩
  | @minusSeries t p =>
    obtain ⟨hne, hdates, hday⟩ := he
    refine ⟨hne, fun u hu => by rw [Series.dates_mapPresent, hdates u hu], fun k => ⟨?_, ?_⟩⟩
    · rw [Series.valueOn_mapPresent, Option.map_eq_none_iff]
      exact (hday k).1
    · intro y hy
      rw [Series.valueOn_mapPresent, Option.map_eq_some_iff] at hy
      obtain ⟨x, hx, rfl⟩ := hy
      rw [onDay, evaluate_unary, (hday k).2 x hx]
      rfl
  | @plusSeries t p =>
    obtain ⟨hne, hdates, hday⟩ := he
    refine ⟨hne, hdates, fun k => ⟨(hday k).1, fun x hx => ?_⟩⟩
    rw [onDay, evaluate_unary, (hday k).2 x hx]
    rfl

lemma evaluate_binary_numbers {o : Operator} {a b : Expr} {x y : Float}
    (ha : a.evaluate r c = .ok (.number x)) (hb : b.evaluate r c = .ok (.number y))
    (hy : o.Admits y) : (binary o a b).evaluate r c = .ok (.number (o.compute x y)) := by
  rw [evaluate_binary, ha, hb]
  exact ofFault_eq_ok.2 (Operator.apply_eq_ok.2 (.numbers hy))

lemma Agrees.binary {o : Operator} {a b : Expr} {v w u : Value} (ha : Agrees r c a v)
    (hb : Agrees r c b w) (h : o.Joins v w u) : Agrees r c (binary o a b) u := by
  cases h with
  | numbers hy =>
    refine ⟨by simp [named, ha.1, hb.1], fun k => ?_⟩
    exact evaluate_binary_numbers (ha.2 k) (hb.2 k) hy
  | @numberSeries x t p ht =>
    obtain ⟨hne, hdates, hday⟩ := hb
    refine ⟨by simp [named, hne], fun u hu => ?_, fun k => ⟨?_, ?_⟩⟩
    · rw [Series.dates_mapPresent]
      exact hdates u (by simpa [named, ha.1] using hu)
    · rw [Series.valueOn_mapPresent, Option.map_eq_none_iff, named, ha.1, List.nil_append]
      exact (hday k).1
    · intro z hz
      rw [Series.valueOn_mapPresent, Option.map_eq_some_iff] at hz
      obtain ⟨y, hy, rfl⟩ := hz
      exact evaluate_binary_numbers (ha.2 k) ((hday k).2 y hy)
        (ht y (Series.mem_present_of_valueOn hy))
  | @seriesNumber s p y hy =>
    obtain ⟨hne, hdates, hday⟩ := ha
    refine ⟨by simp [named, hne], fun u hu => ?_, fun k => ⟨?_, ?_⟩⟩
    · rw [Series.dates_mapPresent]
      exact hdates u (by simpa [named, hb.1] using hu)
    · rw [Series.valueOn_mapPresent, Option.map_eq_none_iff, named, hb.1, List.append_nil]
      exact (hday k).1
    · intro z hz
      rw [Series.valueOn_mapPresent, Option.map_eq_some_iff] at hz
      obtain ⟨x, hx, rfl⟩ := hz
      exact evaluate_binary_numbers ((hday k).2 x hx) (hb.2 k) hy
  | @twoSeries s t p q hd ht =>
    obtain ⟨hane, hadates, haday⟩ := ha
    obtain ⟨hbne, hbdates, hbday⟩ := hb
    refine ⟨by simp [named, hane], fun u hu => ?_, fun k => ⟨?_, ?_⟩⟩
    · rw [Series.dates_zipPresent _ hd]
      rcases List.mem_append.1 hu with hu | hu
      · exact hadates u hu
      · rw [hd, hbdates u hu]
    · -- a day is absent if it is absent on one of the two sides
      rw [Series.valueOn_zipPresent]
      simp only [named, List.mem_append, or_and_right, exists_or, ← (haday k).1, ← (hbday k).1]
      cases s.valueOn k <;> simp
    · intro z hz
      rw [Series.valueOn_zipPresent] at hz
      obtain ⟨x, hx, hz⟩ := Option.bind_eq_some_iff.1 hz
      obtain ⟨y, hy, rfl⟩ := Option.map_eq_some_iff.1 hz
      exact evaluate_binary_numbers ((haday k).2 x hx) ((hbday k).2 y hy)
        (ht y (Series.mem_present_of_valueOn hy))

lemma Arithmetic.agrees {e : Expr} (he : e.Arithmetic) {v : Value}
    (h : e.evaluate r c = .ok v) : Agrees r c e v := by
  induction he generalizing v with
  | number hn => exact agrees_number hn h
  | dataset => exact agrees_dataset h
  | unary _ ih =>
    rw [evaluate_unary] at h
    obtain ⟨w, hw, h⟩ := bind_eq_ok.1 h
    exact (ih hw).unary (Sign.apply_eq_ok.1 (ofFault_eq_ok.1 h))
  | binary _ _ iha ihb =>
    rw [evaluate_binary] at h
    obtain ⟨w, hw, h⟩ := bind_eq_ok.1 h
    obtain ⟨z, hz, h⟩ := bind_eq_ok.1 h
    exact (iha hw).binary (ihb hz) (Operator.apply_eq_ok.1 (ofFault_eq_ok.1 h))

/-- **Series arithmetic is pointwise.** A series that an arithmetic expression comes to has the
days of all its datasets. It is absent where one of them is, and has elsewhere the value of the
expression on the numbers of that day. -/
theorem evaluate_pointwise {e : Expr} (he : e.Arithmetic) {s : Series} {o : Origin}
    (h : e.evaluate r c = .ok (.series s o)) :
    (∀ t ∈ e.named r, t.dates = s.dates) ∧ ∀ k,
      (s.valueOn k = none ↔ ∃ t ∈ e.named r, t.valueOn k = none) ∧
      ∀ x, s.valueOn k = some x → (e.onDay r k).evaluate r c = .ok (.number x) :=
  (he.agrees h).2

/-- Two days and two datasets, the first of which is absent on the second day. -/
def twoDays : Registry :=
  let axis := [(Date.of? 2024 2 28).get (by decide), (Date.of? 2024 2 29).get (by decide)]
  { axis
    members := [
      { entries := Series.zipEntries axis [some 7.0, none], id := 1 },
      { entries := Series.zipEntries axis [some 2.0, some 5.0], id := 2 }] }

/-- The first dataset less one, over the second with a sign. -/
def ratio : Expr :=
  .binary .div (.binary .sub (.call datasetName [.lit (.int 1)]) (.lit (.int 1)))
    (.unary .minus (.call datasetName [.lit (.int 2)]))

theorem evaluate_pointwise_ratio :
    ratio.Arithmetic ∧ ∃ s, ratio.evaluate twoDays {} = .ok (.series s .fresh) ∧
      s.values = [some (-3.0), none] ∧ ((∀ t ∈ ratio.named twoDays, t.dates = s.dates) ∧ ∀ k,
        (s.valueOn k = none ↔ ∃ t ∈ ratio.named twoDays, t.valueOn k = none) ∧
        ∀ x, s.valueOn k = some x → (ratio.onDay twoDays k).evaluate twoDays {} = .ok (.number x)) :=
  have ha : ratio.Arithmetic := .binary (.binary .dataset (.number rfl)) (.unary .dataset)
  ⟨ha, _, rfl, rfl, evaluate_pointwise ha rfl⟩

end Expr

end Daybook
