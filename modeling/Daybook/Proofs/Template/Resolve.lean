import Daybook.Proofs.Evaluation.Basic
import Daybook.Template.Check

/-!
What becomes of the placeholders of a template. Each comes to a value, a fault or an abort, and
from these alone one can tell what resolving finds and what checking finds: resolving stops at
the first placeholder without a value, checking goes on behind a fault.
-/

namespace Daybook

namespace Placeholder

variable (r : Registry) (c : Context)

def value (p : Placeholder) : Outcome Value := Expr.read p.expression >>= Expr.evaluate r c

def HasValue (p : Placeholder) : Prop := ∃ v, p.value r c = .ok v

/-- The placeholder with its value, if that is a number or a moment. -/
def resolved? (p : Placeholder) : Option Resolved :=
  match p.value r c with
  | .ok v => v.scalar?.map fun x => ⟨p.source, x, p.format⟩
  | .error _ => none

/-- What a check of the placeholder has to say. -/
def finding (p : Placeholder) : Finding :=
  match p.value r c with
  | .ok v => if v.isScalar then .fine else .notWritten p.source v.kind
  | .error (.fault f) => .fault p.source f
  | .error (.abort _) => .fine

variable {r c} {p : Placeholder}

lemma source_of_resolved? {x : Resolved} (h : p.resolved? r c = some x) : x.source = p.source := by
  rw [resolved?] at h
  split at h
  · obtain ⟨y, -, rfl⟩ := Option.map_eq_some_iff.1 h
    rfl
  · cases h

lemma error?_finding (h : p.HasValue r c) : Template.Finding.error? (p.finding r c) = none := by
  obtain ⟨v, hv⟩ := h
  rw [finding, hv]
  dsimp only
  split <;> rfl

lemma error?_finding_of_fault {f : Fault} (h : p.value r c = .fault f) :
    Template.Finding.error? (p.finding r c) =
      some (String.ofList p.source ++ ": " ++ f.message) := by
  rw [finding, h]
  rfl

end Placeholder

namespace Template

open Placeholder

variable {r : Registry} {c : Context} {ps : List Placeholder} {stop : Stop}

lemma resolveOne_eq (p : Placeholder) : (resolveOne r c p).2 =
    p.value r c >>= fun v => .ok (v.scalar?.map fun x => ⟨p.source, x, p.format⟩) := by
  rw [resolveOne, Placeholder.value]
  cases Expr.read p.expression with
  | error stop => rfl
  | ok e =>
    simp only [ok_bind, Expr.evaluate]
    rcases Expr.run r c e with ⟨calls, (f | a) | v⟩
    · rfl
    · rfl
    · cases h : v.scalar? <;> simp [h]

lemma resolveAll_cons (p : Placeholder) : (resolveAll r c (p :: ps)).2 =
    (resolveOne r c p).2 >>= fun found => (resolveAll r c ps).2 >>= fun rest =>
      .ok (found.toList ++ rest) := by
  rw [resolveAll]
  rcases resolveOne r c p with ⟨_, _ | _⟩
  · rfl
  · rcases resolveAll r c ps with ⟨_, _ | _⟩ <;> rfl

lemma resolveAll_eq_ok {found : List Resolved} : (resolveAll r c ps).2 = .ok found ↔
    (∀ p ∈ ps, p.HasValue r c) ∧ found = ps.filterMap (·.resolved? r c) := by
  induction ps generalizing found with
  | nil => simp [resolveAll, eq_comm]
  | cons p ps ih =>
    rw [resolveAll_cons, resolveOne_eq]
    cases hv : p.value r c with
    | error stop => simp [HasValue, hv]
    | ok v =>
      have hr : p.resolved? r c = v.scalar?.map fun x => ⟨p.source, x, p.format⟩ := by
        rw [resolved?, hv]
      simp only [ok_bind, bind_eq_ok, ih, Except.ok.injEq, List.forall_mem_cons,
        List.filterMap_cons, hr]
      constructor
      · rintro ⟨rest, ⟨hps, rfl⟩, rfl⟩
        refine ⟨⟨⟨v, hv⟩, hps⟩, ?_⟩
        cases v.scalar? <;> rfl
      · rintro ⟨⟨-, hps⟩, rfl⟩
        refine ⟨_, ⟨hps, rfl⟩, ?_⟩
        cases v.scalar? <;> rfl

lemma resolveAll_eq_error : (resolveAll r c ps).2 = .error stop ↔ ∃ before p after,
    ps = before ++ p :: after ∧ (∀ q ∈ before, q.HasValue r c) ∧ p.value r c = .error stop := by
  induction ps with
  | nil => simp [resolveAll]
  | cons p ps ih =>
    rw [resolveAll_cons, resolveOne_eq]
    constructor
    · intro h
      -- the error is that of the first placeholder, or it lies further behind
      cases hv : p.value r c with
      | error s =>
        rw [hv] at h
        cases h
        exact ⟨[], p, ps, rfl, by simp, hv⟩
      | ok v =>
        rw [hv, ok_bind, ok_bind] at h
        rcases bind_eq_error.1 h with h | ⟨rest, -, h⟩
        · obtain ⟨before, q, after, rfl, hbefore, hq⟩ := ih.1 h
          exact ⟨p :: before, q, after, rfl, List.forall_mem_cons.2 ⟨⟨v, hv⟩, hbefore⟩, hq⟩
        · cases h
    · rintro ⟨before, q, after, hps, hbefore, hq⟩
      cases before with
      | nil =>
        cases hps
        rw [hq]
        rfl
      | cons b before =>
        cases hps
        obtain ⟨⟨v, hv⟩, hbefore⟩ := List.forall_mem_cons.1 hbefore
        rw [hv, ok_bind, ok_bind, ih.2 ⟨before, q, after, rfl, hbefore, hq⟩]
        rfl

lemma render_eq (text : List Char) : (render r c text).2 =
    (resolve r c text).2 >>= fun found => ofFault (fill c.dateFormat.toList found text) := by
  rw [render]
  rcases resolve r c text with ⟨_, _ | _⟩ <;> rfl

lemma inspectOne_eq_ok {p : Placeholder} {found : Finding} :
    inspectOne (some r) c p = .ok found ↔
      (∀ a, p.value r c ≠ .abort a) ∧ found = p.finding r c := by
  rw [inspectOne, finding, Placeholder.value]
  cases Expr.read p.expression with
  | error stop => cases stop <;> simp [Outcome.abort, eq_comm]
  | ok e =>
    simp only [ok_bind]
    rcases Expr.evaluate r c e with (f | a) | v
    · simp [Outcome.abort, eq_comm]
    · simp [Outcome.abort]
    · simp [Outcome.abort, eq_comm (a := found)]

lemma inspectAll_eq_ok {findings : List Finding} : inspectAll (some r) c ps = .ok findings ↔
    (∀ p ∈ ps, ∀ a, p.value r c ≠ .abort a) ∧ findings = ps.map (·.finding r c) := by
  induction ps generalizing findings with
  | nil => simp [inspectAll, pure, Except.pure, eq_comm]
  | cons p ps ih =>
    rw [inspectAll] at ih ⊢
    rw [List.mapM_cons, bind_eq_ok]
    simp only [bind_eq_ok, inspectOne_eq_ok, ih, List.forall_mem_cons, List.map_cons]
    constructor
    · rintro ⟨x, ⟨hp, rfl⟩, xs, ⟨hps, rfl⟩, h⟩
      cases h
      exact ⟨⟨hp, hps⟩, rfl⟩
    · rintro ⟨⟨hp, hps⟩, rfl⟩
      exact ⟨_, ⟨hp, rfl⟩, _, ⟨hps, rfl⟩, rfl⟩

end Template

end Daybook
