import Daybook.Expr.Evaluate
import Daybook.Proofs.Series.Days

/-!
What signs, operators and reshapings come to. Each has few ways of giving a result, and these
are said once; which faults it has otherwise is said beside them.
-/

namespace Daybook

/-- The operator may have the number on its right. -/
def Operator.Admits (o : Operator) (y : Float) : Prop := o.divides = true → (y == 0.0) = false

def Operator.AdmitsValue (o : Operator) (w : Value) : Prop := o.divides = true → w.isDivisor = true

/-- The ways in which an operator joins two values: number and series go together in each of
the four orders. -/
inductive Operator.Joins (o : Operator) : Value → Value → Value → Prop
  | numbers {x y : Float} : o.Admits y →
      Joins o (.number x) (.number y) (.number (o.compute x y))
  | numberSeries {x : Float} {t : Series} {p : Origin} : (∀ y ∈ t.present, o.Admits y) →
      Joins o (.number x) (.series t p) (t.mapPresent (o.compute x)).asValue
  | seriesNumber {s : Series} {p : Origin} {y : Float} : o.Admits y →
      Joins o (.series s p) (.number y) (s.mapPresent fun x => o.compute x y).asValue
  | twoSeries {s t : Series} {p q : Origin} : s.dates = t.dates →
      (∀ y ∈ t.present, o.Admits y) →
      Joins o (.series s p) (.series t q) (s.zipPresent o.compute t).asValue

/-- A sign changes a number, or every present day of a series. -/
inductive Sign.Turns : Sign → Value → Value → Prop
  | minusNumber {x : Float} : Turns .minus (.number x) (.number (-x))
  | plusNumber {x : Float} : Turns .plus (.number x) (.number x)
  | minusSeries {t : Series} {p : Origin} :
      Turns .minus (.series t p) (t.mapPresent fun x => -x).asValue
  | plusSeries {t : Series} {p : Origin} : Turns .plus (.series t p) t.clone.asValue

namespace Operator

variable {o : Operator} {v w u : Value} {f : Fault}

@[simp] lemma admitsValue_number {y : Float} : o.AdmitsValue (.number y) ↔ o.Admits y := by
  simp [AdmitsValue, Admits, Value.isDivisor]

@[simp] lemma admitsValue_series {t : Series} {p : Origin} :
    o.AdmitsValue (.series t p) ↔ ∀ y ∈ t.present, o.Admits y := by
  simp only [AdmitsValue, Admits, Value.isDivisor, List.all_eq_true, Bool.not_eq_true']
  exact ⟨fun h y hy ho => h ho y hy, fun h ho y hy => h y hy ho⟩

lemma apply_of_admits (hv : v.isOperand = true) (hw : w.isOperand = true)
    (h : o.AdmitsValue w) : o.apply (.ok v) (.ok w) = o.onValues v w := by
  have hd : (o.divides && !w.isDivisor) = false := by
    cases ho : o.divides
    · rfl
    · simp [h ho]
  simp [apply, hv, hw, hd]

lemma apply_eq_ok : o.apply (.ok v) (.ok w) = .ok u ↔ o.Joins v w u := by
  constructor
  · intro h
    simp only [apply] at h
    split at h
    · cases h
    · rename_i hop
      split at h
      · cases h
      · rename_i hd
        have ha : o.AdmitsValue w := by
          intro ho
          simpa [ho] using hd
        -- of the nine pairs of operands four can have a result
        cases v <;> cases w <;> simp [Value.isOperand, Value.isNumber, Value.isMoment,
          Value.isSeries] at hop <;> simp only [onValues] at h <;> try cases h
        · exact .numbers (admitsValue_number.1 ha)
        · exact .numberSeries (admitsValue_series.1 ha)
        · exact .seriesNumber (admitsValue_number.1 ha)
        · rename_i s p t q
          by_cases hs : s.sharesAxis t = true
          · rw [if_pos hs] at h
            cases h
            exact .twoSeries (by simpa [Series.sharesAxis] using hs) (admitsValue_series.1 ha)
          · rw [if_neg hs] at h
            cases h
  · rintro (h | h | h | ⟨hd, h⟩)
    · exact apply_of_admits rfl rfl (admitsValue_number.2 h)
    · exact apply_of_admits rfl rfl (admitsValue_series.2 h)
    · exact apply_of_admits rfl rfl (admitsValue_number.2 h)
    · rw [apply_of_admits rfl rfl (admitsValue_series.2 h)]
      simp [onValues, Series.sharesAxis, hd]

lemma fault_of_apply (h : o.apply (.ok v) (.ok w) = .error f) :
    f = .invalidOperand ∨ f = .divisionByZero ∨ f = .noOperation o.text ∨
      ∃ s p t q, v = .series s p ∧ w = .series t q ∧ s.dates ≠ t.dates ∧ f = .unaligned o := by
  rw [apply] at h
  by_cases hop : (!(v.isOperand && w.isOperand)) = true
  · rw [if_pos hop] at h
    cases h
    exact .inl rfl
  rw [if_neg hop] at h
  by_cases hd : (o.divides && !w.isDivisor) = true
  · rw [if_pos hd] at h
    cases h
    exact .inr (.inl rfl)
  rw [if_neg hd] at h
  clear hop hd
  -- both operands are admitted, so only their kinds and days are left
  refine .inr (.inr ?_)
  cases v <;> cases w <;> simp only [onValues] at h <;> try cases h
  case series.series s p t q =>
    by_cases hs : s.sharesAxis t = true
    · rw [if_pos hs] at h
      cases h
    · rw [if_neg hs] at h
      cases h
      exact .inr ⟨s, p, t, q, rfl, rfl, by simpa [Series.sharesAxis] using hs, rfl⟩
  all_goals exact .inl rfl

end Operator

namespace Sign

variable {s : Sign} {v u : Value} {f : Fault}

lemma apply_eq_ok : s.apply (.ok v) = .ok u ↔ s.Turns v u := by
  constructor
  · intro h
    cases s <;> cases v <;> cases h <;> constructor
  · rintro (_ | _ | _ | _) <;> rfl

lemma fault_of_apply (h : s.apply (.ok v) = .error f) : f = .noOperation s.text := by
  cases s <;> cases v <;> cases h <;> rfl

end Sign

/-! ### Series that operations make -/

/-- A value that is no series, or one that has just been derived from one of the given values. -/
def Value.MadeFrom (vs : List Value) (u : Value) : Prop :=
  (∃ x, u = .number x) ∨ ∃ s p t, .series s p ∈ vs ∧ u = Series.asValue t ∧ s.Derives t

/-- The same, derived from the first series among the given values. -/
def Value.MadeFromFirst (vs : List Value) (u : Value) : Prop :=
  (∃ x, u = .number x) ∨ ∃ s p t, vs.find? Value.isSeries = some (.series s p) ∧
    u = Series.asValue t ∧ s.Derives t

lemma Value.MadeFromFirst.madeFrom {vs : List Value} {u : Value} (h : u.MadeFromFirst vs) :
    u.MadeFrom vs := by
  rcases h with hx | ⟨s, p, t, hfind, hu, ht⟩
  · exact .inl hx
  · exact .inr ⟨s, p, t, List.mem_of_find?_eq_some hfind, hu, ht⟩

lemma Sign.Turns.madeFromFirst {s : Sign} {v u : Value} (h : s.Turns v u) :
    u.MadeFromFirst [v] := by
  cases h with
  | minusNumber | plusNumber => exact .inl ⟨_, rfl⟩
  | @minusSeries t p => exact .inr ⟨t, p, _, rfl, rfl, Series.derives_mapPresent _ _⟩
  | @plusSeries t p => exact .inr ⟨t, p, _, rfl, rfl, Series.derives_clone _⟩

lemma Operator.Joins.madeFromFirst {o : Operator} {v w u : Value} (h : o.Joins v w u) :
    u.MadeFromFirst [v, w] := by
  cases h with
  | numbers => exact .inl ⟨_, rfl⟩
  | @numberSeries x t p => exact .inr ⟨t, p, _, rfl, rfl, Series.derives_mapPresent _ _⟩
  | @seriesNumber s p => exact .inr ⟨s, p, _, rfl, rfl, Series.derives_mapPresent _ _⟩
  | @twoSeries s t p q hd => exact .inr ⟨s, p, _, rfl, rfl, Series.derives_zipPresent _ hd⟩

lemma Sign.Turns.madeFrom {s : Sign} {v u : Value} (h : s.Turns v u) : u.MadeFrom [v] :=
  h.madeFromFirst.madeFrom

lemma Operator.Joins.madeFrom {o : Operator} {v w u : Value} (h : o.Joins v w u) :
    u.MadeFrom [v, w] :=
  h.madeFromFirst.madeFrom

namespace Reshape

variable {f : Reshape} {s : Series} {u : Value} {g : Fault}

lemma derives_of_eq_ok {args : List Operand} (h : f.of s args = .ok u) :
    ∃ t, u = Series.asValue t ∧ s.Derives t := by
  cases f with
  | normalize =>
    simp only [of, normalized] at h
    split at h
    · split at h <;> cases h
      exact ⟨_, rfl, Series.derives_mapPresent _ _⟩
    · cases h
  | setMissing =>
    simp only [of] at h
    split at h
    · split at h <;> cases h
      exact ⟨_, rfl, Series.derives_filled _ _⟩
    · cases h

lemma fault_of_of {args : List Operand} (h : f.of s args = .error g) :
    (∃ name, g = .noRange name) ∨ ∃ name, g = .invalidArguments name := by
  cases f with
  | normalize =>
    simp only [of, normalized] at h
    split at h
    · split at h <;> cases h
      exact .inl ⟨_, rfl⟩
    · cases h
      exact .inl ⟨_, rfl⟩
  | setMissing =>
    simp only [of] at h
    split at h
    · split at h <;> cases h
      exact .inr ⟨_, rfl⟩
    · cases h
      exact .inr ⟨_, rfl⟩

lemma derives_of_call {name : String} {vs : List Value} (h : f.call name vs = .ok u) :
    ∃ s p args t, vs = .series s p :: args ∧ u = Series.asValue t ∧ s.Derives t := by
  match vs with
  | [] => cases h
  | .series s p :: args =>
    obtain ⟨t, rfl, ht⟩ := derives_of_eq_ok h
    exact ⟨s, p, args, t, rfl, rfl, ht⟩
  | .number _ :: _ | .moment _ :: _ | .flag _ :: _ | .text _ :: _ | .none :: _ => cases h

lemma madeFrom_of_call {name : String} {vs : List Value} (h : f.call name vs = .ok u) :
    u.MadeFrom vs := by
  obtain ⟨s, p, args, t, rfl, hu, ht⟩ := derives_of_call h
  exact .inr ⟨s, p, t, List.mem_cons_self, hu, ht⟩

end Reshape

end Daybook
