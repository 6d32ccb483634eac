import Daybook.Proofs.Evaluation.Kinds
import Daybook.Proofs.Reading.Faithful
import Daybook.Proofs.Template.Validate

/-!
Which fault a template is answered with. All placeholders are evaluated before any value is
written, so the first placeholder without a value decides, and formats count only if there is
none. The value of a text is not written and knows no formats.
-/

namespace Daybook

namespace Placeholder

variable (r : Registry) (c : Context)

/-- The fault that the expression of a placeholder comes to. -/
def fault? (p : Placeholder) : Option Fault :=
  match p.value r c with
  | .error (.fault f) => some f
  | _ => none

/-- The number or the moment that a placeholder comes to. -/
def scalar? (p : Placeholder) : Option Scalar := (p.value r c).toOption.bind Value.scalar?

/-- The fault of writing the number or the moment of a placeholder by its format. -/
def formatFault? (p : Placeholder) : Option Fault :=
  (p.scalar? r c).bind fun x => errorOf? (x.write c.dateFormat.toList p.format)

variable {r c} {p : Placeholder} {f : Fault}

lemma fault?_eq_some : p.fault? r c = some f ↔ p.value r c = .fault f := by
  rw [fault?]
  rcases p.value r c with (g | a) | v <;> simp [Outcome.fault]

lemma fault?_of_hasValue (h : p.HasValue r c) : p.fault? r c = none := by
  obtain ⟨v, hv⟩ := h
  rw [fault?, hv]

lemma resolved?_eq (p : Placeholder) :
    p.resolved? r c = (p.scalar? r c).map fun x => ⟨p.source, x, p.format⟩ := by
  rw [resolved?, scalar?]
  cases p.value r c <;> rfl

lemma kind_of_fault? (h : p.fault? r c = some f) : f.kind ≠ .format ∧ f.kind ≠ .unresolved := by
  rcases bind_eq_error.1 (fault?_eq_some.1 h) with hread | ⟨e, -, he⟩
  · rcases Expr.refused_of_read hread with ⟨g, hg, hkind⟩ | ⟨w, -, -, hw⟩
    · cases hg
      rw [hkind]
      exact ⟨nofun, nofun⟩
    · cases hw
  · rcases Expr.ofEvaluation_of_evaluate he with hkind | hkind
    · constructor <;> intro hne <;> rw [hne] at hkind <;> cases hkind
    · rw [hkind]
      exact ⟨nofun, nofun⟩

end Placeholder

namespace Template

open Placeholder Text

variable {r : Registry} {c : Context} {ps : List Placeholder} {text : List Char} {f : Fault}

/-! ### Resolving -/

lemma resolveAll_eq (h : ∀ a, (resolveAll r c ps).2 ≠ .abort a) :
    (resolveAll r c ps).2 = match ps.findSome? (·.fault? r c) with
      | some f => .fault f
      | none => .ok (ps.filterMap (·.resolved? r c)) := by
  rcases hres : (resolveAll r c ps).2 with (f | a) | found
  · obtain ⟨before, p, after, rfl, hbefore, hp⟩ := resolveAll_eq_error.1 hres
    have hfirst : (before ++ p :: after).findSome? (·.fault? r c) = some f :=
      List.findSome?_eq_some_iff.2 ⟨before, p, after, rfl, fault?_eq_some.2 hp,
        fun q hq => fault?_of_hasValue (hbefore q hq)⟩
    rw [hfirst]
    rfl
  · exact absurd hres (h a)
  · obtain ⟨hall, rfl⟩ := resolveAll_eq_ok.1 hres
    have hnone : ps.findSome? (·.fault? r c) = none :=
      List.findSome?_eq_none_iff.2 fun q hq => fault?_of_hasValue (hall q hq)
    rw [hnone]

lemma resolve_ne_abort (h : ∀ a, (render r c text).2 ≠ .abort a) (a : Abort) :
    (resolve r c text).2 ≠ .abort a := by
  intro ha
  refine h a ?_
  rw [render_eq, ha]
  rfl

lemma resolve_eq_fault (h : ∀ a, (render r c text).2 ≠ .abort a)
    (hf : (find text).findSome? (·.fault? r c) = some f) : (resolve r c text).2 = .fault f := by
  have hresolve := resolveAll_eq (resolve_ne_abort h)
  rwa [hf] at hresolve

lemma resolve_eq_ok (h : ∀ a, (render r c text).2 ≠ .abort a)
    (hnone : (find text).findSome? (·.fault? r c) = none) :
    (resolve r c text).2 = .ok ((find text).filterMap (·.resolved? r c)) := by
  have hresolve := resolveAll_eq (resolve_ne_abort h)
  rwa [hnone] at hresolve

/-! ### Writing -/

lemma errorOf?_fill (default : List Char) (found : List Resolved) (text : List Char) :
    errorOf? (fill default found text) =
      found.findSome? fun x => errorOf? (x.value.write default x.format) := by
  induction found generalizing text with
  | nil => rfl
  | cons x found ih =>
    rw [fill, List.findSome?_cons]
    cases x.value.write default x.format with
    | error f => rfl
    | ok written =>
      rw [ok_bind]
      exact ih _

lemma findSome?_filterMap {α β γ : Type} (g : α → Option β) (h : β → Option γ) (xs : List α) :
    (xs.filterMap g).findSome? h = xs.findSome? fun x => (g x).bind h := by
  rw [← List.head?_filterMap, ← List.head?_filterMap, List.filterMap_filterMap]

lemma errorOf?_fill_resolved (text : List Char) :
    errorOf? (fill c.dateFormat.toList (ps.filterMap (·.resolved? r c)) text) =
      ps.findSome? (·.formatFault? r c) := by
  rw [errorOf?_fill, findSome?_filterMap]
  congr 1
  funext p
  rw [resolved?_eq, formatFault?]
  cases p.scalar? r c <;> rfl

/-! ### The value of a text -/

lemma value_eq (h : isPlainNumber (trim text) = false) :
    (value r c text).2 = (resolve r c text).2 >>= fun found =>
      match found.head? with
      | some p => .ok p.value
      | none => .fault .unresolved := by
  have hresolve : resolve r c (trim text) = resolve r c text := by
    rw [resolve, resolve, find_trim]
  simp only [value, h, hresolve]
  rcases resolve r c text with ⟨notes, stop | _ | ⟨p, ps⟩⟩ <;> rfl

lemma head?_resolved : (ps.filterMap (·.resolved? r c)).head?.map (·.value) =
    ps.findSome? (·.scalar? r c) := by
  rw [← List.head?_map, List.map_filterMap, List.head?_filterMap]
  congr 1
  funext p
  rw [resolved?_eq]
  cases p.scalar? r c <;> rfl

/-! ### The report -/

/-- **What a template reports.** Let no placeholder break off. If a placeholder has a fault, the
first one decides: its fault is the answer of rendering and of the value alike, whatever formats
there are. Otherwise rendering answers with the first format by which a number or a moment cannot
be written, and with a text if there is none; and the value of a text that is not itself a number
is that of the first placeholder with a number or a moment, and unresolved only if there is none. -/
theorem first_fault_reported (h : ∀ a, (render r c text).2 ≠ .abort a) :
    (∀ f, (find text).findSome? (·.fault? r c) = some f →
      (render r c text).2 = .fault f ∧ f.kind ≠ .format ∧ f.kind ≠ .unresolved ∧
        (isPlainNumber (trim text) = false → (value r c text).2 = .fault f)) ∧
    ((find text).findSome? (·.fault? r c) = none →
      (∀ f, (find text).findSome? (·.formatFault? r c) = some f →
        (render r c text).2 = .fault f ∧ f.kind = .format) ∧
      ((find text).findSome? (·.formatFault? r c) = none → ∃ cs, (render r c text).2 = .ok cs) ∧
      (isPlainNumber (trim text) = false → (value r c text).2 =
        match (find text).findSome? (·.scalar? r c) with
        | some x => .ok x
        | none => .fault .unresolved)) := by
  refine ⟨fun f hf => ?_, fun hnone => ⟨fun f hf => ?_, fun hf => ?_, fun hplain => ?_⟩⟩
  · -- a failing placeholder stops both, before any format is looked at
    have hresolve := resolve_eq_fault h hf
    obtain ⟨p, -, hp⟩ := List.exists_of_findSome?_eq_some hf
    obtain ⟨hformat, hunresolved⟩ := kind_of_fault? hp
    refine ⟨?_, hformat, hunresolved, fun hplain => ?_⟩
    · rw [render_eq, hresolve]
      rfl
    · rw [value_eq hplain, hresolve]
      rfl
  · rw [← errorOf?_fill_resolved text, errorOf?_eq_some] at hf
    rw [render_eq, resolve_eq_ok h hnone, ok_bind, hf]
    exact ⟨rfl, kind_of_fill hf⟩
  · rw [← errorOf?_fill_resolved text] at hf
    rw [render_eq, resolve_eq_ok h hnone, ok_bind]
    cases hfill : fill c.dateFormat.toList ((find text).filterMap (·.resolved? r c)) text with
    | error f =>
      rw [hfill] at hf
      cases hf
    | ok cs => exact ⟨cs, rfl⟩
  · rw [value_eq hplain, resolve_eq_ok h hnone, ok_bind, ← head?_resolved]
    cases ((find text).filterMap (·.resolved? r c)).head? <;> rfl

def oneSeries : Registry := { axis := [], members := [{ entries := [], id := 1 }] }

/-- A series, a number with a format that is none, and a quotient. -/
def illFormatted : List Char :=
  braced "dataset(1)".toList ++ braced "1::q".toList ++ braced "2/4".toList

theorem first_fault_reported_illFormatted :
    (∀ a, (render oneSeries {} illFormatted).2 ≠ .abort a) ∧
      (∃ f, (render oneSeries {} illFormatted).2 = .fault f ∧ f.kind = .format) ∧
      (∃ x, (value oneSeries {} illFormatted).2 = .ok x) ∧
      (∀ a, (render oneSeries {} (illFormatted ++ braced "x()".toList)).2 ≠ .abort a) ∧
      (render oneSeries {} (illFormatted ++ braced "x()".toList)).2 =
        .fault (.unknownFunction "x") := by
  have hformat : (render oneSeries {} illFormatted).2 =
      .fault (.badFormat "q" (.unsupported 'q' 1)) := by decide +kernel
  have hfault : (render oneSeries {} (illFormatted ++ braced "x()".toList)).2 =
      .fault (.unknownFunction "x") := by decide +kernel
  have hformat' : ∀ a, (render oneSeries {} illFormatted).2 ≠ .abort a := by
    rw [hformat]
    nofun
  have hfault' : ∀ a, (render oneSeries {} (illFormatted ++ braced "x()".toList)).2 ≠ .abort a := by
    rw [hfault]
    nofun
  have hnone : (find illFormatted).findSome? (·.fault? oneSeries {}) = none := by decide +kernel
  have hscalar : ((find illFormatted).findSome? (·.scalar? oneSeries {})).isSome = true := by
    decide +kernel
  obtain ⟨x, hx⟩ := Option.isSome_iff_exists.1 hscalar
  obtain ⟨hrender, -, hvalue⟩ := (first_fault_reported hformat').2 hnone
  have hreport := hrender (.badFormat "q" (.unsupported 'q' 1)) (by decide +kernel)
  refine ⟨hformat', ⟨_, hreport⟩, ⟨x, ?_⟩, hfault', ?_⟩
  · rw [hvalue (by decide +kernel), hx]
  · exact ((first_fault_reported hfault').1 _ (by decide +kernel)).1

end Template

end Daybook
