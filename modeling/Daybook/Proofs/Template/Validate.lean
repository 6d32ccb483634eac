import Mathlib.Data.List.Nodup
import Daybook.Proofs.Template.Placeholder
import Daybook.Proofs.Template.Resolve
import Daybook.Proofs.Text.Braces

/-!
Checking a template and rendering it agree. A text without errors of its own is valid exactly if
all its placeholders resolve; the first error of an invalid one is the fault that rendering ends
with, and the warnings of a valid one name the placeholders that rendering leaves alone.
-/

namespace Daybook.Template

open Placeholder Text

variable {r : Registry} {c : Context} {limit : Int} {text : List Char} {v : Validation}
variable {ps : List Placeholder}

lemma validate_eq_ok (hl : (Lint.of limit text).errors = []) :
    validate (some r) c limit text = .ok v ↔
      (∀ p ∈ find text, ∀ a, p.value r c ≠ .abort a) ∧
      v = { errors := (find text).filterMap fun p => Finding.error? (p.finding r c)
            warnings := (Lint.of limit text).warnings ++
              (find text).filterMap fun p => Finding.warning? (p.finding r c)
            placeholders := (find text).map (·.source) } := by
  simp only [validate, hl, ne_eq, not_true_eq_false, if_false, bind_eq_ok, inspectAll_eq_ok]
  constructor
  · rintro ⟨_, ⟨ha, rfl⟩, h⟩
    cases h
    refine ⟨ha, ?_⟩
    simp only [List.filterMap_map, Function.comp_def, List.append_nil]
  · rintro ⟨ha, rfl⟩
    refine ⟨_, ⟨ha, rfl⟩, ?_⟩
    simp only [List.filterMap_map, Function.comp_def, List.append_nil]
    rfl

lemma filterMap_error?_eq_nil (ha : ∀ p ∈ ps, ∀ a, p.value r c ≠ .abort a) :
    (ps.filterMap fun p => Finding.error? (p.finding r c)) = [] ↔ ∀ p ∈ ps, p.HasValue r c := by
  rw [List.filterMap_eq_nil_iff]
  refine ⟨fun h p hp => ?_, fun h p hp => error?_finding (h p hp)⟩
  cases hv : p.value r c with
  | ok w => exact ⟨w, hv⟩
  | error stop =>
    cases stop with
    | fault f =>
      have he := h p hp
      rw [error?_finding_of_fault hv] at he
      cases he
    | abort a => exact absurd hv (ha p hp a)

lemma head?_filterMap_error? {before after : List Placeholder} {p : Placeholder} {f : Fault}
    (hbefore : ∀ q ∈ before, q.HasValue r c) (hp : p.value r c = .fault f) :
    ((before ++ p :: after).filterMap fun p => Finding.error? (p.finding r c)).head? =
      some (String.ofList p.source ++ ": " ++ f.message) := by
  rw [List.filterMap_append, List.filterMap_cons, error?_finding_of_fault hp,
    List.filterMap_eq_nil_iff.2 fun q hq => error?_finding (hbefore q hq)]
  rfl

/-! ### Placeholders that are left alone -/

/-- A placeholder is left out of what resolving finds if its value is neither number nor moment.
Another placeholder does not stand in for it, since all have different sources. -/
lemma source_mem_resolved (hps : (ps.map (·.source)).Nodup) {p : Placeholder} (hp : p ∈ ps) :
    p.source ∈ (ps.filterMap (·.resolved? r c)).map (·.source) ↔
      (p.resolved? r c).isSome = true := by
  simp only [List.mem_map, List.mem_filterMap, Option.isSome_iff_exists]
  constructor
  · rintro ⟨x, ⟨q, hq, hx⟩, hsource⟩
    have hqp : q = p := List.inj_on_of_nodup_map hps hq hp
      ((source_of_resolved? hx).symm.trans hsource)
    exact ⟨x, hqp ▸ hx⟩
  · rintro ⟨x, hx⟩
    exact ⟨x, ⟨p, hp, hx⟩, source_of_resolved? hx⟩

/-- The placeholders with values that cannot be written, with these values. -/
def unwritten (r : Registry) (c : Context) (ps : List Placeholder) : List (Placeholder × Value) :=
  ps.filterMap fun p =>
    match p.value r c with
    | .ok w => if w.isScalar then none else some (p, w)
    | .error _ => none

lemma value_of_mem_unwritten {q : Placeholder × Value} (h : q ∈ unwritten r c ps) :
    q.1.value r c = .ok q.2 := by
  obtain ⟨p, -, hq⟩ := List.mem_filterMap.1 h
  split at hq
  · rename_i w hw
    split at hq <;> cases hq
    exact hw
  · cases hq

lemma filterMap_warning? : (ps.filterMap fun p => Finding.warning? (p.finding r c)) =
    (unwritten r c ps).map fun q => String.ofList q.1.source ++ " evaluates to a " ++
      q.2.kind.text ++ " and will not be substituted." := by
  rw [unwritten, List.map_filterMap]
  refine List.filterMap_congr fun p _ => ?_
  rw [finding]
  rcases p.value r c with (f | a) | w
  · rfl
  · rfl
  · cases h : w.isScalar <;> simp [h, Finding.warning?]

lemma unwritten_fst (hps : (ps.map (·.source)).Nodup) (hv : ∀ p ∈ ps, p.HasValue r c) :
    (unwritten r c ps).map Prod.fst =
      ps.filter fun p => p.source ∉ (ps.filterMap (·.resolved? r c)).map (·.source) := by
  rw [unwritten, List.map_filterMap, ← List.filterMap_eq_filter]
  refine List.filterMap_congr fun p hp => ?_
  simp only [Option.guard, source_mem_resolved hps hp]
  obtain ⟨w, hw⟩ := hv p hp
  simp only [resolved?, hw, Option.isSome_map, ← Value.isScalar.eq_def]
  cases w.isScalar <;> simp

/-! ### Rendering -/

lemma kind_of_write {default : List Char} {format : Option (List Char)} {x : Scalar} {f : Fault}
    (h : x.write default format = .error f) : f.kind = .format := by
  cases x with
  | number x =>
    simp only [Scalar.write, Format.numberText] at h
    split at h
    · cases h
    · split at h <;> cases h
      rfl
  | moment m => cases h

lemma kind_of_fill {default : List Char} {found : List Resolved} {f : Fault}
    (h : fill default found text = .error f) : f.kind = .format := by
  induction found generalizing text with
  | nil => cases h
  | cons p ps ih =>
    rw [fill] at h
    rcases bind_eq_error.1 h with h | ⟨written, -, h⟩
    · exact kind_of_write h
    · exact ih h

/-! ### The two verdicts -/

lemma exists_resolve_iff :
    (∃ found, (resolve r c text).2 = .ok found) ↔ ∀ p ∈ find text, p.HasValue r c := by
  simp only [resolve, resolveAll_eq_ok, exists_and_left, exists_eq, and_true]

lemma isValid_iff (hl : (Lint.of limit text).errors = [])
    (hv : validate (some r) c limit text = .ok v) :
    v.isValid = true ↔ ∀ p ∈ find text, p.HasValue r c := by
  obtain ⟨ha, rfl⟩ := (validate_eq_ok hl).1 hv
  rw [Validation.isValid, List.isEmpty_iff, filterMap_error?_eq_nil ha]

lemma exists_resolve_fault_iff (ha : ∀ p ∈ find text, ∀ a, p.value r c ≠ .abort a) :
    (∃ f, (resolve r c text).2 = .fault f) ↔ ¬ ∃ found, (resolve r c text).2 = .ok found := by
  rcases hres : (resolve r c text).2 with (f | a) | found
  · simp [Outcome.fault]
  · obtain ⟨before, p, after, hps, -, hp⟩ := resolveAll_eq_error.1 hres
    exact absurd hp (ha p (by simp [hps]) a)
  · simp [Outcome.fault]

lemma exists_first_error (hl : (Lint.of limit text).errors = [])
    (hv : validate (some r) c limit text = .ok v) {f : Fault}
    (hf : (resolve r c text).2 = .fault f) : ∃ before p after,
      find text = before ++ p :: after ∧ (∀ q ∈ before, q.HasValue r c) ∧ p.value r c = .fault f ∧
      v.errors.head? = some (String.ofList p.source ++ ": " ++ f.message) := by
  obtain ⟨-, rfl⟩ := (validate_eq_ok hl).1 hv
  obtain ⟨before, p, after, hps, hbefore, hp⟩ := resolveAll_eq_error.1 hf
  refine ⟨before, p, after, hps, hbefore, hp, ?_⟩
  rw [hps]
  exact head?_filterMap_error? hbefore hp

lemma exists_left_out (hl : (Lint.of limit text).errors = [])
    (hv : validate (some r) c limit text = .ok v) {found : List Resolved}
    (hfound : (resolve r c text).2 = .ok found) : ∃ left : List (Placeholder × Value),
      left.map Prod.fst = (find text).filter (fun p => p.source ∉ found.map (·.source)) ∧
      (∀ q ∈ left, q.1.value r c = .ok q.2) ∧
      v.warnings = (Lint.of limit text).warnings ++ left.map fun q =>
        String.ofList q.1.source ++ " evaluates to a " ++ q.2.kind.text ++
          " and will not be substituted." := by
  obtain ⟨-, rfl⟩ := (validate_eq_ok hl).1 hv
  obtain ⟨hall, rfl⟩ := resolveAll_eq_ok.1 hfound
  exact ⟨unwritten r c (find text), unwritten_fst (nodup_find text) hall,
    fun q hq => value_of_mem_unwritten hq, by rw [filterMap_warning?]⟩

lemma render_of_resolve (h : ∃ found, (resolve r c text).2 = .ok found) :
    (∃ cs, (render r c text).2 = .ok cs) ∨
      ∃ f, (render r c text).2 = .fault f ∧ f.kind = .format := by
  obtain ⟨found, hfound⟩ := h
  rw [render_eq, hfound, ok_bind]
  cases hfill : fill c.dateFormat.toList found text with
  | ok cs => exact .inl ⟨cs, rfl⟩
  | error f => exact .inr ⟨f, rfl, kind_of_fill hfill⟩

/-- **Checking and rendering agree.** Let a text have no errors of its own and its check no
abort. It is valid if and only if its placeholders resolve. If they do not, the first error of the
check names the first placeholder that fails, with its fault. If they do, the check warns of
exactly those placeholders, in order, that resolving leaves out, and rendering can only fail at a
format. -/
theorem validate_agrees (hl : (Lint.of limit text).errors = [])
    (hv : validate (some r) c limit text = .ok v) :
    (v.isValid = true ↔ ∃ found, (resolve r c text).2 = .ok found) ∧
    (v.isValid = false ↔ ∃ f, (resolve r c text).2 = .fault f) ∧
    (∀ f, (resolve r c text).2 = .fault f → ∃ before p after,
      find text = before ++ p :: after ∧ (∀ q ∈ before, q.HasValue r c) ∧
      p.value r c = .fault f ∧
      v.errors.head? = some (String.ofList p.source ++ ": " ++ f.message)) ∧
    (∀ found, (resolve r c text).2 = .ok found → ∃ left : List (Placeholder × Value),
      left.map Prod.fst = (find text).filter (fun p => p.source ∉ found.map (·.source)) ∧
      (∀ q ∈ left, q.1.value r c = .ok q.2) ∧
      v.warnings = (Lint.of limit text).warnings ++ left.map fun q =>
        String.ofList q.1.source ++ " evaluates to a " ++ q.2.kind.text ++
          " and will not be substituted.") ∧
    (v.isValid = true → (∃ cs, (render r c text).2 = .ok cs) ∨
      ∃ f, (render r c text).2 = .fault f ∧ f.kind = .format) := by
  have hvalid := (isValid_iff hl hv).trans exists_resolve_iff.symm
  refine ⟨hvalid, ?_, fun f => exists_first_error hl hv, fun found => exists_left_out hl hv,
    fun h => render_of_resolve (hvalid.1 h)⟩
  rw [exists_resolve_fault_iff ((validate_eq_ok hl).1 hv).1, ← hvalid, Bool.not_eq_true]

/-- A text with a placeholder that is not written, and two that fail. -/
def troubled : List Char :=
  braced "true".toList ++ ", ".toList ++ braced "x()".toList ++ braced "1/0".toList

theorem validate_agrees_troubled : (Lint.of 100 troubled).errors = [] ∧
    ∃ v, validate (some { axis := [] }) {} 100 troubled = .ok v ∧
      v.errors = [String.ofList (braced "x()".toList) ++ ": Unknown function 'x'",
        String.ofList (braced "1/0".toList) ++ ": Division by zero in expression"] ∧
      ∃ f, (resolve { axis := [] } {} troubled).2 = .fault f := by
  have hl : (Lint.of 100 troubled).errors = [] := by decide +kernel
  have hv : validate (some { axis := [] }) {} 100 troubled = .ok
      { errors := [String.ofList (braced "x()".toList) ++ ": Unknown function 'x'",
          String.ofList (braced "1/0".toList) ++ ": Division by zero in expression"]
        warnings := [String.ofList (braced "true".toList) ++
          " evaluates to a boolean and will not be substituted."]
        placeholders := [braced "true".toList, braced "x()".toList, braced "1/0".toList] } := rfl
  exact ⟨hl, _, hv, rfl, (validate_agrees hl hv).2.1.1 rfl⟩

end Daybook.Template
