import Daybook.Proofs.Operation.Checked

/-!
Remainders day by day. Between two numbers, and on every day of a series where both sides are
present, a divisor other than zero leaves the exact remainder. One zero on any present day of the
divisor is a division by zero of the whole, even where the dividend has no value to divide.
-/

namespace Daybook

open Number Operand

/-- What a number or a series has on the `k`th day; a number has the same on every day. -/
def Value.onDay (k : ℕ) : Value → Option Float
  | .number x => some x
  | .series s _ => s.valueOn k
  | _ => Option.none

/-- What is left on a day: nothing if one of the sides has no value. -/
inductive LeavesOn : Option Float → Option Float → Option Float → Prop
  | both {a b r : Float} : Leaves a b r → LeavesOn (some a) (some b) (some r)
  | noDividend {b : Option Float} : LeavesOn none b none
  | noDivisor {a : Option Float} : LeavesOn a none none

/-- What a number or a series leaves of another: a number if both are numbers, and otherwise a
series on the days of each series that it was made of, which has on every day what is left there. -/
inductive LeavesValue (v w : Value) : Value → Prop
  | number {a b r : Float} : v = .number a → w = .number b → Leaves a b r →
      LeavesValue v w (.number r)
  | series {u : Series} : (v.isSeries = true ∨ w.isSeries = true) →
      (∀ s p, v = .series s p ∨ w = .series s p → u.dates = s.dates) →
      (∀ k, LeavesOn (v.onDay k) (w.onDay k) (u.valueOn k)) → LeavesValue v w u.asValue

variable {v w : Value} {s t : Series} {p q : Origin} {x y : Float} {k : ℕ}

namespace Operator

lemma applyBinary_percent (a b : Operand) : applyBinary "%" a b = mod.apply a b := by
  have hmod : ofText? "%" = some mod := by decide
  rw [applyBinary, hmod]

lemma leavesOn_compute {a b : Option Float} (hb : ∀ y, b = some y → mod.Admits y) :
    LeavesOn a b (a.bind fun x => b.map (mod.compute x)) := by
  cases a with
  | none => exact .noDividend
  | some x =>
    cases b with
    | none => exact .noDivisor
    | some y => exact .both (leaves_remainder x (hb y rfl rfl))

/-- **Joined by the remainder, two values have on every day what is left there.** -/
lemma Joins.leavesValue {u : Value} (h : mod.Joins v w u) : LeavesValue v w u := by
  cases h with
  | @numbers x y hy => exact .number rfl rfl (leaves_remainder x (hy rfl))
  | @numberSeries x t p ht =>
    refine .series (.inr rfl) ?_ fun k => ?_
    · rintro s q (h | h) <;> cases h
      exact Series.dates_mapPresent _ _
    · rw [Series.valueOn_mapPresent]
      exact leavesOn_compute fun y hy => ht y (Series.mem_present_of_valueOn hy)
  | @seriesNumber s p y hy =>
    refine .series (.inl rfl) ?_ fun k => ?_
    · rintro t q (h | h) <;> cases h
      exact Series.dates_mapPresent _ _
    · -- the divisor is there on every day
      have hday : (s.valueOn k).map (fun x => mod.compute x y) =
          (s.valueOn k).bind fun x => (some y).map (mod.compute x) := by
        cases s.valueOn k <;> rfl
      rw [Series.valueOn_mapPresent, hday]
      exact leavesOn_compute fun z hz => Option.some_inj.1 hz ▸ hy
  | @twoSeries s t p q hdates ht =>
    refine .series (.inl rfl) ?_ fun k => ?_
    · rintro u r (h | h) <;> cases h
      · exact Series.dates_zipPresent _ hdates
      · rw [Series.dates_zipPresent _ hdates, hdates]
    · rw [Series.valueOn_zipPresent]
      exact leavesOn_compute fun y hy => ht y (Series.mem_present_of_valueOn hy)

lemma isOperand_of_numeric (h : v.isNumber = true ∨ v.isSeries = true) : v.isOperand = true := by
  cases v <;> simp_all [Value.isOperand, Value.isNumber, Value.isSeries]

lemma exists_joins (hv : v.isNumber = true ∨ v.isSeries = true)
    (hw : w.isNumber = true ∨ w.isSeries = true) (hdays : ¬ OtherDays (.ok v) (.ok w))
    (hzero : ¬ HasZero (.ok w)) : ∃ u, mod.apply (.ok v) (.ok w) = .ok u ∧ mod.Joins v w u := by
  have hnot : ¬ mod.DividesByZero (.ok w) := fun h => hzero h.2
  have hmoment : ∀ u : Value, (u.isNumber = true ∨ u.isSeries = true) → ¬ IsMoment (.ok u) := by
    rintro u hu ⟨m, hm⟩
    cases hm
    simp [Value.isNumber, Value.isSeries] at hu
  have hverdict := (mod.verdict_apply (.ok v) (.ok w)).operands (isOperand_of_numeric hv)
    (isOperand_of_numeric hw)
  have hgives := hverdict.gives hnot hdays (not_or.2 ⟨hmoment v hv, hmoment w hw⟩)
  rcases hgives with ⟨x, y, -, -, hu⟩ | ⟨-, u, hu, -⟩ <;> exact ⟨_, hu, apply_eq_ok.1 hu⟩

end Operator

/-- **The remainder is exact, and has the sign of the dividend.** A number or a series by another
one, on the same days if both are series, leaves on each day the exact remainder of the two values
there: short of the dividend by a whole multiple of the divisor, smaller than the divisor, with the
sign of the dividend; an infinite divisor leaves the dividend, an infinite dividend no number. Where
the divisor has a zero the whole is a division by zero. -/
theorem applyBinary_leaves (hv : v.isNumber = true ∨ v.isSeries = true)
    (hw : w.isNumber = true ∨ w.isSeries = true) (hdays : ¬ OtherDays (.ok v) (.ok w)) :
    (HasZero (.ok w) → applyBinary "%" (.ok v) (.ok w) = .error .divisionByZero) ∧
      (¬ HasZero (.ok w) →
        ∃ u, applyBinary "%" (.ok v) (.ok w) = .ok u ∧ LeavesValue v w u) := by
  rw [Operator.applyBinary_percent]
  refine ⟨fun hzero => ?_, fun hzero => ?_⟩
  · exact Operator.apply_of_dividesByZero (Operator.isOperand_of_numeric hv)
      (Operator.isOperand_of_numeric hw) ⟨.inr rfl, hzero⟩
  · obtain ⟨u, hu, hjoins⟩ := Operator.exists_joins hv hw hdays hzero
    exact ⟨u, hu, hjoins.leavesValue⟩

/-- A value near the end of the range, a zero behind a minus sign, an infinity, and a gap. -/
def extremeDividends : Series where
  entries := [⟨(Date.of? 2024 2 28).get Date.isSome_february28, some (-1e308)⟩,
    ⟨(Date.of? 2024 2 29).get Date.isSome_february29, some (-0.0)⟩,
    ⟨(Date.of? 2024 3 1).get Date.isSome_march1, some (1.0 / 0.0)⟩,
    ⟨(Date.of? 2024 3 1).get Date.isSome_march1, none⟩]

/-- The least double, an infinity, and two values that are not met. -/
def extremeDivisors : Series where
  entries := [⟨(Date.of? 2024 2 28).get Date.isSome_february28, some 5e-324⟩,
    ⟨(Date.of? 2024 2 29).get Date.isSome_february29, some (1.0 / 0.0)⟩,
    ⟨(Date.of? 2024 3 1).get Date.isSome_march1, some (-3.0)⟩,
    ⟨(Date.of? 2024 3 1).get Date.isSome_march1, some 2.0⟩]

theorem applyBinary_leaves_extremes :
    ¬ OtherDays (.ok (.series extremeDividends .fresh)) (.ok (.series extremeDivisors .fresh)) ∧
      ¬ HasZero (.ok (.series extremeDivisors .fresh)) ∧
      ∃ u, applyBinary "%" (.ok (.series extremeDividends .fresh))
          (.ok (.series extremeDivisors .fresh)) = .ok u ∧
        LeavesValue (.series extremeDividends .fresh) (.series extremeDivisors .fresh) u := by
  have hdates : extremeDividends.dates = extremeDivisors.dates := by decide +kernel
  have hdays : ¬ OtherDays (.ok (.series extremeDividends .fresh))
      (.ok (.series extremeDivisors .fresh)) := Operator.not_otherDays_of_dates_eq hdates
  have hdivisor : (Value.series extremeDivisors .fresh).isDivisor = true := by decide +kernel
  have hzero : ¬ HasZero (.ok (.series extremeDivisors .fresh)) := by
    rw [← Operator.isDivisor_eq_false_iff, hdivisor]
    exact Bool.noConfusion
  exact ⟨hdays, hzero, (applyBinary_leaves (.inr rfl) (.inr rfl) hdays).2 hzero⟩

/-- Seven on the first day, nothing on the second. -/
def sevenThenGap : Series where
  entries := [⟨(Date.of? 2024 2 28).get Date.isSome_february28, some 7.0⟩,
    ⟨(Date.of? 2024 2 29).get Date.isSome_february29, none⟩]

/-- Two on the first day, zero on the second. -/
def twoThenZero : Series where
  entries := [⟨(Date.of? 2024 2 28).get Date.isSome_february28, some 2.0⟩,
    ⟨(Date.of? 2024 2 29).get Date.isSome_february29, some 0.0⟩]

/-- A zero counts on a day where there is nothing to divide, so the other day has no remainder
either; and it counts before the dividend does. -/
theorem applyBinary_zeroFirst :
    sevenThenGap.dates = twoThenZero.dates ∧ sevenThenGap.valueOn 0 = some 7.0 ∧
      twoThenZero.valueOn 0 = some 2.0 ∧ sevenThenGap.valueOn 1 = none ∧
      twoThenZero.valueOn 1 = some 0.0 ∧
      applyBinary "%" (.ok (.series sevenThenGap .fresh)) (.ok (.series twoThenZero .fresh)) =
        .error .divisionByZero ∧
      isInfinite (infinity false) = true ∧
      applyBinary "%" (.ok (.number (infinity false))) (.ok (.number 0.0)) =
        .error .divisionByZero := by
  have hseries : HasZero (.ok (.series twoThenZero .fresh)) :=
    Operator.isDivisor_eq_false_iff.1 (by decide +kernel)
  have hnumber : HasZero (.ok (.number 0.0)) :=
    Operator.isDivisor_eq_false_iff.1 (by decide +kernel)
  refine ⟨by decide +kernel, rfl, rfl, rfl, rfl, ?_, by decide +kernel, ?_⟩
  · rw [Operator.applyBinary_percent]
    exact Operator.apply_of_dividesByZero rfl rfl ⟨.inr rfl, hseries⟩
  · rw [Operator.applyBinary_percent]
    exact Operator.apply_of_dividesByZero rfl rfl ⟨.inr rfl, hnumber⟩

end Daybook
