import Daybook.Proofs.Calendar.Order
import Daybook.Proofs.Number.Remainder
import Daybook.Proofs.Operation

/-!
Operators that never break down. Arithmetic that has no answer for a zero divisor, nor for the
remainder of an infinite dividend, is carried through numbers and series; it always comes to the
result that the operator has. What the result is goes by the operands alone, and of the faults
that they may cause the first one counts.
-/

namespace Daybook

/-! ### Arithmetic that can break down -/

/-- The remainder of a division. There is none if the divisor is zero or the dividend infinite. -/
def Number.remainder? (x y : Float) : Option Float :=
  if isInfinite x = true ∨ (y == 0.0) = true then none else some (remainder x y)

/-- A quotient. There is none if the divisor is zero. -/
def Number.quotient? (x y : Float) : Option Float :=
  if (y == 0.0) = true then none else some (x / y)

namespace Series

/-- What a function that can break down makes of a value, if it is present. -/
def onPresent? (f : Float → Option Float) : Option Float → Option (Option Float)
  | some x => (f x).map some
  | none => some none

def onBoth? (f : Float → Float → Option Float) : Option Float × Option Float → Option (Option Float)
  | (some x, some y) => (f x y).map some
  | _ => some none

/-- The series of what is made of the values, one after the other. -/
def mapPresent? (f : Float → Option Float) (s : Series) : Option Series := do
  let values ← s.values.mapM (onPresent? f)
  (s.withValues values).toOption

/-- The series of what is made of the values of two series, day after day. -/
def zipPresent? (f : Float → Float → Option Float) (s t : Series) : Option Series := do
  let values ← (s.values.zip t.values).mapM (onBoth? f)
  (s.withValues values).toOption

end Series

namespace Operator

/-- What an operator does to two numbers, if it does not break down. The remainder of an infinite
dividend is not asked for. -/
def compute? : Operator → Float → Float → Option Float
  | add, x, y => some (x + y)
  | sub, x, y => some (x - y)
  | mul, x, y => some (x * y)
  | div, x, y => Number.quotient? x y
  | mod, x, y =>
    if Number.isInfinite x = true then some Number.notANumber else Number.remainder? x y

def onValues? (o : Operator) : Value → Value → Option (Except Fault Value)
  | .number x, .number y => (o.compute? x y).map fun z => .ok (.number z)
  | .number x, .series t _ => (t.mapPresent? (o.compute? x)).map fun u => .ok u.asValue
  | .series s _, .number y => (s.mapPresent? fun x => o.compute? x y).map fun u => .ok u.asValue
  | .series s _, .series t _ =>
    if s.sharesAxis t then (s.zipPresent? o.compute? t).map fun u => .ok u.asValue
    else some (.error (.unaligned o))
  | _, _ => some (.error (.noOperation o.text))

def attempt? (o : Operator) (a b : Operand) : Option (Except Fault Value) :=
  match a, b with
  | .ok v, .ok w =>
    if !(v.isOperand && w.isOperand) then some (.error .invalidOperand)
    else if o.divides && !w.isDivisor then some (.error .divisionByZero)
    else o.onValues? v w
  | _, _ => some (.error .invalidOperand)

end Operator

def applyBinary? (operator : String) (a b : Operand) : Option (Except Fault Value) :=
  match Operator.ofText? operator with
  | some o => o.attempt? a b
  | none => some (.error (.noOperation operator))

/-! ### It does not break down -/

lemma Operator.compute?_eq {o : Operator} {y : Float} (h : o.Admits y) (x : Float) :
    o.compute? x y = some (o.compute x y) := by
  cases o with
  | add | sub | mul => rfl
  | div =>
    have hy : (y == 0.0) = false := h rfl
    rw [compute?, Number.quotient?, hy]
    rfl
  | mod =>
    have hy : (y == 0.0) = false := h rfl
    rw [compute?, compute, Number.remainder?, hy]
    by_cases hx : Number.isInfinite x = true
    · rw [if_pos hx, Number.remainder_of_isInfinite hx]
    · rw [if_neg hx, if_neg (by simp [hx])]

namespace Series

variable {s t : Series}

lemma mapM_eq_some_map {α β : Type} {f : α → Option β} {g : α → β} {as : List α}
    (h : ∀ a ∈ as, f a = some (g a)) : as.mapM f = some (as.map g) := by
  induction as with
  | nil => rfl
  | cons a as ih =>
    have hhead := h a (List.mem_cons_self ..)
    have htail := ih fun b hb => h b (List.mem_cons_of_mem _ hb)
    rw [List.mapM_cons, hhead, htail]
    rfl

lemma withValues_of_length {values : List (Option Float)} (h : values.length = s.length) :
    (s.withValues values).toOption = some (s.derive (zipEntries s.dates values)) := by
  rw [withValues, if_pos h]
  rfl

lemma zipEntries_zip (es fs : List Entry) (g : Option Float × Option Float → Option Float) :
    zipEntries (es.map (·.day)) (((es.map (·.value)).zip (fs.map (·.value))).map g) =
      List.zipWith (fun a b => { a with value := g (a.value, b.value) }) es fs := by
  induction es generalizing fs with
  | nil => rfl
  | cons e es ih =>
    cases fs with
    | nil => rfl
    | cons d fs => exact congrArg _ (ih fs)

lemma mapPresent?_eq {f : Float → Option Float} {g : Float → Float}
    (h : ∀ x ∈ s.present, f x = some (g x)) : s.mapPresent? f = some (s.mapPresent g) := by
  have hvalues : s.values.mapM (onPresent? f) = some (s.values.map (Option.map g)) := by
    refine mapM_eq_some_map fun v hv => ?_
    cases v with
    | none => rfl
    | some x =>
      obtain ⟨e, he, hx⟩ := List.mem_map.1 hv
      rw [onPresent?, h x (mem_present.2 ⟨e, he, hx⟩)]
      rfl
  have hentries : zipEntries s.dates (s.values.map (Option.map g)) =
      s.entries.map fun e => { e with value := e.value.map g } := by
    rw [zipEntries, dates, values, List.map_map, List.zipWith_map, List.zipWith_self]
    rfl
  rw [mapPresent?, hvalues]
  exact (withValues_of_length (by rw [List.length_map, length_values])).trans
    (by rw [hentries, mapPresent])

lemma zipPresent?_eq {f : Float → Float → Option Float} {g : Float → Float → Float}
    (hdates : s.dates = t.dates) (h : ∀ x, ∀ y ∈ t.present, f x y = some (g x y)) :
    s.zipPresent? f t = some (s.zipPresent g t) := by
  -- a day counts if it is present in both
  let both : Option Float × Option Float → Option Float := fun p => p.1.bind fun x => p.2.map (g x)
  have hvalues : (s.values.zip t.values).mapM (onBoth? f) =
      some ((s.values.zip t.values).map both) := by
    refine mapM_eq_some_map fun p hp => ?_
    obtain ⟨v, w⟩ := p
    cases v with
    | none => rfl
    | some x =>
      cases w with
      | none => rfl
      | some y =>
        obtain ⟨e, he, hy⟩ := List.mem_map.1 (List.of_mem_zip hp).2
        rw [onBoth?, h x y (mem_present.2 ⟨e, he, hy⟩)]
        rfl
  have hsame : s.length = t.length := by
    rw [← length_dates, ← length_dates, hdates]
  have hlength : ((s.values.zip t.values).map both).length = s.length := by
    rw [List.length_map, List.length_zip, length_values, length_values, ← hsame, Nat.min_self]
  rw [zipPresent?, hvalues]
  exact (withValues_of_length hlength).trans
    (congrArg (fun es => some (s.derive es)) (zipEntries_zip s.entries t.entries both))

end Series

namespace Operator

variable {o : Operator} {v w : Value}

lemma onValues?_eq (h : o.AdmitsValue w) : o.onValues? v w = some (o.onValues v w) := by
  -- on the second operand, since the divisor is what the guard looks at
  cases w with
  | number y =>
    have hadmits := admitsValue_number.1 h
    cases v with
    | number x => rw [onValues?, compute?_eq hadmits]; rfl
    | series s p =>
      have hvalues : ∀ x ∈ s.present, o.compute? x y = some (o.compute x y) := fun x _ =>
        compute?_eq hadmits x
      rw [onValues?, Series.mapPresent?_eq hvalues]
      rfl
    | moment | flag | text | none => rfl
  | series t q =>
    have hadmits := admitsValue_series.1 h
    cases v with
    | number x =>
      have hvalues : ∀ y ∈ t.present, o.compute? x y = some (o.compute x y) := fun y hy =>
        compute?_eq (hadmits y hy) x
      rw [onValues?, Series.mapPresent?_eq hvalues]
      rfl
    | series s p =>
      have hvalues : ∀ x, ∀ y ∈ t.present, o.compute? x y = some (o.compute x y) :=
        fun x y hy => compute?_eq (hadmits y hy) x
      rw [onValues?, onValues]
      split
      · rename_i haxis
        rw [Series.zipPresent?_eq (beq_iff_eq.1 haxis) hvalues]
        rfl
      · rfl
    | moment | flag | text | none => rfl
  | moment | flag | text | none => cases v <;> rfl

/-- **The zero test of the whole right side covers all the arithmetic that follows.** -/
lemma attempt?_eq (o : Operator) (a b : Operand) : o.attempt? a b = some (o.apply a b) := by
  cases a with
  | error f => rfl
  | ok v =>
    cases b with
    | error f => rfl
    | ok w =>
      rw [attempt?, apply]
      split
      · rfl
      · split
        · rfl
        · rename_i hzero
          refine onValues?_eq fun hdivides => ?_
          simpa [hdivides] using hzero

end Operator

lemma applyBinary?_eq (operator : String) (a b : Operand) :
    applyBinary? operator a b = some (applyBinary operator a b) := by
  rw [applyBinary?, applyBinary]
  cases Operator.ofText? operator with
  | some o => exact o.attempt?_eq a b
  | none => rfl

/-! ### Which result it is -/

namespace Operand

variable {a b : Operand}

/-- A zero, or a series with a zero on some day. -/
def HasZero : Operand → Prop
  | .ok (.number y) => (y == 0.0) = true
  | .ok (.series t _) => ∃ e ∈ t.entries, ∃ y, e.value = some y ∧ (y == 0.0) = true
  | _ => False

def OtherDays (a b : Operand) : Prop :=
  ∃ s p t q, a = .ok (.series s p) ∧ b = .ok (.series t q) ∧ s.dates ≠ t.dates

def IsMoment (a : Operand) : Prop := ∃ m, a = .ok (.moment m)

end Operand

/-- The kind of the fault that took the place of a result. -/
def faultKind? : Except Fault Value → Option FaultKind
  | .error f => some f.kind
  | .ok _ => none

open Operand

namespace Operator

def DividesByZero (o : Operator) (b : Operand) : Prop := (o = .div ∨ o = .mod) ∧ HasZero b

/-- A number of two numbers, or a series on as many days as each series that it was made of. -/
def Gives (o : Operator) (a b : Operand) (r : Except Fault Value) : Prop :=
  (∃ x y, a = .ok (.number x) ∧ b = .ok (.number y) ∧ r = .ok (.number (o.compute x y))) ∨
    (∃ s p, a = .ok (.series s p) ∨ b = .ok (.series s p)) ∧
      ∃ u : Series, r = .ok u.asValue ∧
        ∀ s p, a = .ok (.series s p) ∨ b = .ok (.series s p) → u.length = s.length

/-- What becomes of two operands. Each of the faults counts exactly if those before it do not
apply, and without any there is a result. -/
structure Judges (o : Operator) (a b : Operand) (r : Except Fault Value) : Prop where
  zero : faultKind? r = some .divideByZero ↔ o.DividesByZero b
  unaligned : ¬ o.DividesByZero b → (faultKind? r = some .alignment ↔ OtherDays a b)
  moment : ¬ o.DividesByZero b → ¬ OtherDays a b →
    (faultKind? r = some .type ↔ IsMoment a ∨ IsMoment b)
  gives : ¬ o.DividesByZero b → ¬ OtherDays a b → ¬ (IsMoment a ∨ IsMoment b) → o.Gives a b r

/-- **What an operator comes to**, on any two sides. -/
structure Verdict (o : Operator) (a b : Operand) (r : Except Fault Value) : Prop where
  noOperand : ¬ (a.isOperand = true ∧ b.isOperand = true) → faultKind? r = some .type
  operands : a.isOperand = true → b.isOperand = true → o.Judges a b r

variable {o : Operator} {a b : Operand} {v w : Value}

lemma divides_iff : o.divides = true ↔ o = .div ∨ o = .mod := by
  cases o <;> decide

lemma isDivisor_eq_false_iff : w.isDivisor = false ↔ HasZero (.ok w) := by
  cases w with
  | number y => simp only [Value.isDivisor, HasZero, Bool.not_eq_false']
  | series t p =>
    simp only [Value.isDivisor, HasZero, List.all_eq_false, Bool.not_eq_true', Bool.not_eq_false,
      Series.mem_present]
    constructor
    · rintro ⟨y, ⟨e, he, hy⟩, hzero⟩
      exact ⟨e, he, y, hy, hzero⟩
    · rintro ⟨e, he, y, hy, hzero⟩
      exact ⟨y, ⟨e, he, hy⟩, hzero⟩
  | moment | flag | text | none => simp [Value.isDivisor, HasZero]

lemma admitsValue_iff : o.AdmitsValue w ↔ ¬ o.DividesByZero (.ok w) := by
  rw [AdmitsValue, DividesByZero, ← divides_iff, ← isDivisor_eq_false_iff, not_and,
    Bool.not_eq_false]

lemma length_zipPresent {s t : Series} (f : Float → Float → Float) (h : s.dates = t.dates) :
    (s.zipPresent f t).length = s.length := by
  rw [← Series.length_dates, Series.dates_zipPresent f h, Series.length_dates]

lemma length_mapPresent (f : Float → Float) (s : Series) : (s.mapPresent f).length = s.length := by
  rw [← Series.length_dates, Series.dates_mapPresent, Series.length_dates]

lemma not_otherDays_of_left (h : v.isSeries = false) : ¬ OtherDays (.ok v) b := by
  rintro ⟨s, p, t, q, hv, -⟩
  cases hv
  cases h

lemma not_otherDays_of_right (h : w.isSeries = false) : ¬ OtherDays a (.ok w) := by
  rintro ⟨s, p, t, q, -, hw, -⟩
  cases hw
  cases h

lemma not_otherDays_of_dates_eq {s t : Series} {p q : Origin} (h : s.dates = t.dates) :
    ¬ OtherDays (.ok (.series s p)) (.ok (.series t q)) := by
  rintro ⟨s', p', t', q', hs, ht, hne⟩
  cases hs
  cases ht
  exact hne h

lemma isMoment_ok : IsMoment (.ok v) ↔ v.isMoment = true := by
  constructor
  · rintro ⟨m, hm⟩
    cases hm
    rfl
  · intro h
    cases v <;> cases h
    exact ⟨_, rfl⟩

lemma onValues_cases (o : Operator) (hv : v.isOperand = true) (hw : w.isOperand = true) :
    (OtherDays (.ok v) (.ok w) ∧ o.onValues v w = .error (.unaligned o)) ∨
    (¬ OtherDays (.ok v) (.ok w) ∧ (IsMoment (.ok v) ∨ IsMoment (.ok w)) ∧
      o.onValues v w = .error (.noOperation o.text)) ∨
    (¬ OtherDays (.ok v) (.ok w) ∧ ¬ (IsMoment (.ok v) ∨ IsMoment (.ok w)) ∧
      o.Gives (.ok v) (.ok w) (o.onValues v w)) := by
  simp only [isMoment_ok]
  cases v with
  | flag | text | none => cases hv
  | moment m =>
    refine .inr (.inl ⟨not_otherDays_of_left rfl, .inl rfl, ?_⟩)
    cases w <;> rfl
  | number x =>
    cases w with
    | flag | text | none => cases hw
    | moment m => exact .inr (.inl ⟨not_otherDays_of_left rfl, .inr rfl, rfl⟩)
    | number y =>
      exact .inr (.inr ⟨not_otherDays_of_left rfl, by simp [Value.isMoment],
        .inl ⟨x, y, rfl, rfl, rfl⟩⟩)
    | series t q =>
      refine .inr (.inr ⟨not_otherDays_of_left rfl, by simp [Value.isMoment],
        .inr ⟨⟨t, q, .inr rfl⟩, t.mapPresent (o.compute x), rfl, ?_⟩⟩)
      rintro s p (h | h) <;> cases h
      exact length_mapPresent _ t
  | series s p =>
    cases w with
    | flag | text | none => cases hw
    | moment m => exact .inr (.inl ⟨not_otherDays_of_right rfl, .inr rfl, rfl⟩)
    | number y =>
      refine .inr (.inr ⟨not_otherDays_of_right rfl, by simp [Value.isMoment],
        .inr ⟨⟨s, p, .inl rfl⟩, s.mapPresent fun x => o.compute x y, rfl, ?_⟩⟩)
      rintro t q (h | h) <;> cases h
      exact length_mapPresent _ s
    | series t q =>
      -- two series are the only operands that can have other days
      by_cases hdates : s.dates = t.dates
      · have haxis : s.sharesAxis t = true := beq_iff_eq.2 hdates
        have hsame : s.length = t.length := by
          rw [← Series.length_dates, hdates, Series.length_dates]
        refine .inr (.inr ⟨not_otherDays_of_dates_eq hdates, by simp [Value.isMoment],
          .inr ⟨⟨s, p, .inl rfl⟩, s.zipPresent o.compute t, by rw [onValues, if_pos haxis], ?_⟩⟩)
        rintro u r (h | h) <;> cases h
        · exact length_zipPresent _ hdates
        · rw [length_zipPresent _ hdates, hsame]
      · have haxis : ¬ s.sharesAxis t = true := fun h => hdates (beq_iff_eq.1 h)
        exact .inl ⟨⟨s, p, t, q, rfl, rfl, hdates⟩, by rw [onValues, if_neg haxis]⟩

lemma apply_of_not_isOperand (h : ¬ (a.isOperand = true ∧ b.isOperand = true)) :
    o.apply a b = .error .invalidOperand := by
  cases a with
  | error f => rfl
  | ok v =>
    cases b with
    | error f => rfl
    | ok w =>
      have hnot : (!(v.isOperand && w.isOperand)) = true := by
        rw [Bool.not_eq_true', Bool.eq_false_iff]
        exact fun hboth => h (Bool.and_eq_true_iff.1 hboth)
      rw [apply, if_pos hnot]

lemma apply_of_dividesByZero (hv : v.isOperand = true) (hw : w.isOperand = true)
    (h : o.DividesByZero (.ok w)) : o.apply (.ok v) (.ok w) = .error .divisionByZero := by
  have hdivides := divides_iff.2 h.1
  have hdivisor := isDivisor_eq_false_iff.2 h.2
  simp [apply, hv, hw, hdivides, hdivisor]

lemma Gives.faultKind? {r : Except Fault Value} (h : o.Gives a b r) : faultKind? r = none := by
  rcases h with ⟨x, y, -, -, rfl⟩ | ⟨-, u, rfl, -⟩ <;> rfl

lemma judges_onValues (hv : v.isOperand = true) (hw : w.isOperand = true)
    (hzero : ¬ o.DividesByZero (.ok w)) : o.Judges (.ok v) (.ok w) (o.onValues v w) := by
  rcases o.onValues_cases hv hw with ⟨hdays, hr⟩ | ⟨hdays, hmoment, hr⟩ | ⟨hdays, hmoment, hgives⟩
  · rw [hr]
    exact ⟨iff_of_false nofun hzero, fun _ => iff_of_true rfl hdays, fun _ h => absurd hdays h,
      fun _ h => absurd hdays h⟩
  · rw [hr]
    exact ⟨iff_of_false nofun hzero, fun _ => iff_of_false nofun hdays,
      fun _ _ => iff_of_true rfl hmoment, fun _ _ h => absurd hmoment h⟩
  · have hnone : ∀ k, faultKind? (o.onValues v w) ≠ some k := fun k hk => by
      rw [hgives.faultKind?] at hk
      cases hk
    exact ⟨iff_of_false (hnone _) hzero, fun _ => iff_of_false (hnone _) hdays,
      fun _ _ => iff_of_false (hnone _) hmoment, fun _ _ _ => hgives⟩

lemma verdict_apply (o : Operator) (a b : Operand) : o.Verdict a b (o.apply a b) := by
  refine ⟨fun h => by rw [apply_of_not_isOperand h]; rfl, fun ha hb => ?_⟩
  cases a with
  | error f => cases ha
  | ok v =>
    cases b with
    | error f => cases hb
    | ok w =>
      by_cases hzero : o.DividesByZero (.ok w)
      · rw [apply_of_dividesByZero ha hb hzero]
        exact ⟨iff_of_true rfl hzero, fun h => absurd hzero h, fun h => absurd hzero h,
          fun h => absurd hzero h⟩
      · rw [apply_of_admits ha hb (admitsValue_iff.2 hzero)]
        exact judges_onValues ha hb hzero

end Operator

/-- **Binary operators do not break down, and every pair of sides has its result.** Arithmetic
that has no answer for a zero divisor, nor for the remainder of an infinite dividend, comes to the
result of the operator on any two sides. An unknown operator is a fault, and with a known one the
sides alone tell the result. -/
theorem applyBinary_has_verdict (operator : String) (a b : Operand) :
    applyBinary? operator a b = some (applyBinary operator a b) ∧
      (Operator.ofText? operator = none →
        applyBinary operator a b = .error (.noOperation operator)) ∧
      ∀ o, Operator.ofText? operator = some o → o.Verdict a b (applyBinary operator a b) := by
  refine ⟨applyBinary?_eq operator a b, fun h => ?_, fun o h => ?_⟩
  · rw [applyBinary, h]
  · rw [applyBinary, h]
    exact o.verdict_apply a b

/-- A day, and there is nothing that an operator can do to it. -/
def leapDay : Operand :=
  .ok (.moment (.day ((Date.of? 2024 2 29).get Date.isSome_february29)))

/-- The remainder of a day by a negative zero is a division by zero first. -/
theorem applyBinary_has_verdict_negativeZero :
    Operator.ofText? "%" = some .mod ∧
      faultKind? (applyBinary "%" leapDay (.ok (.number (Number.zero true)))) =
        some .divideByZero := by
  have hmod : Operator.ofText? "%" = some .mod := by decide
  have hzero : HasZero (.ok (.number (Number.zero true))) := by
    have heq : (Number.zero true == 0.0) = true := by decide +kernel
    exact heq
  have hverdict := (applyBinary_has_verdict "%" leapDay (.ok (.number (Number.zero true)))).2.2
    .mod hmod
  exact ⟨hmod, (hverdict.operands rfl rfl).zero.2 ⟨.inr rfl, hzero⟩⟩

end Daybook
