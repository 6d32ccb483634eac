import Daybook.Proofs.Evaluation.Calls
import Daybook.Proofs.Template.Placeholder
import Daybook.Proofs.Template.Resolve
import Daybook.Proofs.Text.Braces

/-!
What resolving logs. The different placeholders are taken up in the order in which they are
found, until one has no value. Each adds the calls of its one evaluation and a line that tells
what has become of it; one that cannot be read adds nothing.
-/

namespace Daybook

/-- The source of the placeholder that a line tells the end of. -/
def Note.about? : Note → Option (List Char)
  | call _ => none
  | failed s _ | skipped s _ | resolved s _ => some s

namespace Placeholder

/-- The line that tells what has become of a placeholder; an abort leaves no time for it. -/
def outcome? (p : Placeholder) : Outcome Value → Option Note
  | .ok v =>
    match v.scalar? with
    | some x => some (.resolved p.source x)
    | none => some (.skipped p.source v.kind)
  | .error (.fault f) => some (.failed p.source f)
  | .error (.abort _) => none

/-- What a placeholder adds to the log. -/
def lines (r : Registry) (c : Context) (p : Placeholder) : List Note :=
  match Expr.read p.expression with
  | .error _ => []
  | .ok e => (e.run r c).1.map .call ++ (p.outcome? (e.evaluate r c)).toList

variable {r : Registry} {c : Context} {p : Placeholder} {e : Expr}

lemma lines_of_read (h : Expr.read p.expression = .ok e) :
    p.lines r c = (e.run r c).1.map .call ++ (p.outcome? (e.evaluate r c)).toList := by
  rw [lines, h]

lemma value_of_read (h : Expr.read p.expression = .ok e) : p.value r c = e.evaluate r c := by
  rw [value, h]
  rfl

lemma about?_of_outcome? {v : Outcome Value} {line : Note} (h : p.outcome? v = some line) :
    line.about? = some p.source := by
  rcases v with (f | a) | v
  · cases h
    rfl
  · cases h
  · simp only [outcome?] at h
    split at h <;> cases h <;> rfl

lemma exists_outcome {v : Outcome Value} (h : ∀ a, v ≠ .abort a) :
    ∃ line, p.outcome? v = some line := by
  rcases v with (f | a) | v
  · exact ⟨_, rfl⟩
  · exact absurd rfl (h a)
  · cases hx : v.scalar? with
    | none => exact ⟨.skipped p.source v.kind, by simp only [outcome?, hx]⟩
    | some x => exact ⟨.resolved p.source x, by simp only [outcome?, hx]⟩

lemma filterMap_about?_lines : (p.lines r c).filterMap Note.about? = [] ∨
    (p.lines r c).filterMap Note.about? = [p.source] := by
  have hcalls : ∀ calls : List CallNote, (calls.map Note.call).filterMap Note.about? = [] := by
    intro calls
    rw [List.filterMap_map]
    exact List.filterMap_eq_nil_iff.2 fun _ _ => rfl
  cases h : Expr.read p.expression with
  | error stop =>
    rw [lines, h]
    exact .inl rfl
  | ok e =>
    rw [lines_of_read h, List.filterMap_append, hcalls, List.nil_append]
    cases hline : p.outcome? (e.evaluate r c) with
    | none => exact .inl rfl
    | some line =>
      refine .inr ?_
      rw [Option.toList_some, List.filterMap_cons_some (about?_of_outcome? hline)]
      rfl

end Placeholder

namespace Template

open Placeholder Text

variable {r : Registry} {c : Context} {p : Placeholder} {ps visited : List Placeholder}

/-- The placeholders up to the first one without a value, with it. -/
inductive Visits (r : Registry) (c : Context) : List Placeholder → List Placeholder → Prop
  | all {ps : List Placeholder} : (∀ p ∈ ps, p.HasValue r c) → Visits r c ps ps
  | stopped {before after : List Placeholder} {p : Placeholder} :
      (∀ q ∈ before, q.HasValue r c) → ¬ p.HasValue r c →
      Visits r c (before ++ p :: after) (before ++ [p])

lemma Visits.first (h : Visits r c ps visited) : visited <+: ps := by
  cases h with
  | all => exact List.prefix_rfl
  | @stopped before after p => exact ⟨after, (List.append_cons before p after).symm⟩

lemma Visits.cons (hp : p.HasValue r c) (h : Visits r c ps visited) :
    Visits r c (p :: ps) (p :: visited) := by
  cases h with
  | all h => exact .all (List.forall_mem_cons.2 ⟨hp, h⟩)
  | @stopped before after q h hq =>
    exact @Visits.stopped r c (p :: before) after q (List.forall_mem_cons.2 ⟨hp, h⟩) hq

lemma resolveOne_fst (p : Placeholder) : (resolveOne r c p).1 = p.lines r c := by
  rw [resolveOne, lines]
  cases Expr.read p.expression with
  | error stop => rfl
  | ok e =>
    simp only [Expr.evaluate]
    rcases Expr.run r c e with ⟨calls, (f | a) | v⟩
    · rfl
    · exact (List.append_nil _).symm
    · simp only [outcome?]
      cases v.scalar? <;> rfl

lemma resolveAll_fst_of_hasValue (hp : p.HasValue r c) :
    (resolveAll r c (p :: ps)).1 = p.lines r c ++ (resolveAll r c ps).1 := by
  obtain ⟨v, hv⟩ := hp
  have hone : resolveOne r c p =
      (p.lines r c, .ok (v.scalar?.map fun x => ⟨p.source, x, p.format⟩)) := by
    refine Prod.ext (resolveOne_fst p) ?_
    rw [resolveOne_eq, hv, ok_bind]
  rw [resolveAll, hone]
  rcases resolveAll r c ps with ⟨_, _ | _⟩ <;> rfl

lemma resolveAll_fst_of_not (hp : ¬ p.HasValue r c) :
    (resolveAll r c (p :: ps)).1 = p.lines r c := by
  cases hv : p.value r c with
  | ok v => exact absurd ⟨v, hv⟩ hp
  | error stop =>
    have hone : resolveOne r c p = (p.lines r c, .error stop) := by
      refine Prod.ext (resolveOne_fst p) ?_
      rw [resolveOne_eq, hv, error_bind]
    rw [resolveAll, hone]

lemma exists_visits (r : Registry) (c : Context) (ps : List Placeholder) :
    ∃ visited, Visits r c ps visited ∧ (resolveAll r c ps).1 = visited.flatMap (·.lines r c) := by
  induction ps with
  | nil => exact ⟨[], .all (List.forall_mem_nil _), rfl⟩
  | cons p ps ih =>
    by_cases hp : p.HasValue r c
    · obtain ⟨visited, hvisits, hlog⟩ := ih
      refine ⟨p :: visited, hvisits.cons hp, ?_⟩
      rw [resolveAll_fst_of_hasValue hp, hlog, List.flatMap_cons]
    · refine ⟨[p], @Visits.stopped r c [] ps p (List.forall_mem_nil _) hp, ?_⟩
      rw [resolveAll_fst_of_not hp, List.flatMap_singleton]

lemma filterMap_about?_sublist (visited : List Placeholder) :
    ((visited.flatMap (·.lines r c)).filterMap Note.about?).Sublist (visited.map (·.source)) := by
  induction visited with
  | nil => exact .slnil
  | cons p visited ih =>
    rw [List.flatMap_cons, List.filterMap_append, List.map_cons]
    rcases @filterMap_about?_lines r c p with h | h
    · rw [h]
      exact ih.cons _
    · rw [h]
      exact ih.cons_cons _

lemma Visits.ne_abort (h : Visits r c ps visited)
    (hresolved : ∀ a, (resolveAll r c ps).2 ≠ .abort a) (hp : p ∈ visited) :
    ∀ a, p.value r c ≠ .abort a := by
  intro a ha
  have hnot : ¬ p.HasValue r c := by
    rintro ⟨v, hv⟩
    rw [hv] at ha
    cases ha
  cases h with
  | all hall => exact hnot (hall p hp)
  | @stopped before after q hbefore hq =>
    rcases List.mem_append.1 hp with hp | hp
    · exact hnot (hbefore p hp)
    · obtain rfl := List.mem_singleton.1 hp
      exact hresolved a (resolveAll_eq_error.2 ⟨before, p, after, rfl, hbefore, ha⟩)

/-- **The log of a resolution.** An evaluation notes the first of the calls in its expression, in
the order in which their arguments are complete: all of them if it comes to a value, and in any
case those whose arguments have values. The log has what the placeholders add that are taken up,
one after the other. If resolving ends, each of these that can be read adds the notes of its
evaluation and one line about itself, and no two such lines are about the same one. -/
theorem log_of_resolve (r : Registry) (c : Context) :
    (∀ e : Expr, Expr.Noted r c e (e.run r c).1 ∧
      (∀ p n, (p, n) ∈ e.sites ↔
        ∃ f args, e.at? p = some (.call f args) ∧ n = ⟨f, args.length⟩) ∧
      (e.sites.map (·.1)).Pairwise Expr.Precedes) ∧
    ∀ text, ∃ visited, Visits r c (Placeholder.find text) visited ∧
      (resolve r c text).1 = visited.flatMap (·.lines r c) ∧
      ((∀ a, (resolve r c text).2 ≠ .abort a) →
        ∀ p ∈ visited, ∀ e, Expr.read p.expression = .ok e → ∃ line,
          p.lines r c = (e.run r c).1.map .call ++ [line] ∧
          p.outcome? (e.evaluate r c) = some line ∧ line.about? = some p.source) ∧
      ((resolve r c text).1.filterMap Note.about?).Nodup := by
  refine ⟨fun e => ⟨Expr.noted_run r c e, fun p n => Expr.mem_sites, e.pairwise_sites⟩,
    fun text => ?_⟩
  obtain ⟨visited, hvisits, hlog⟩ := exists_visits r c (Placeholder.find text)
  refine ⟨visited, hvisits, hlog, fun hresolved p hp e hread => ?_, ?_⟩
  · have hvalue := hvisits.ne_abort hresolved hp
    rw [value_of_read hread] at hvalue
    obtain ⟨line, hline⟩ := exists_outcome (p := p) hvalue
    refine ⟨line, ?_, hline, about?_of_outcome? hline⟩
    rw [lines_of_read hread, hline, Option.toList_some]
  · -- no source occurs twice among the placeholders, and each brings one line
    have hsources := (hvisits.first.sublist.map (·.source)).nodup (nodup_find text)
    have hlines : (resolve r c text).1 = visited.flatMap (·.lines r c) := hlog
    rw [hlines]
    exact (filterMap_about?_sublist visited).nodup hsources

/-- A series, the same once more, a quotient by zero, and a number behind it. -/
def halfWritten : List Char :=
  braced "dataset(1)".toList ++ braced "dataset(1)".toList ++
    braced "numDays(dataset(1))/0".toList ++ braced "2".toList

/-- The series is looked up once for itself, with one line about it, and once for its days, with
one line about the quotient. The number is not taken up. -/
theorem log_of_resolve_halfWritten :
    let r : Registry := { axis := [], members := [{ entries := [], id := 1 }] }
    (∀ a, (resolve r {} halfWritten).2 ≠ .abort a) ∧ (resolve r {} halfWritten).1.length = 5 ∧
      ∃ visited, Visits r {} (Placeholder.find halfWritten) visited ∧
        ∀ p ∈ visited, ∀ e, Expr.read p.expression = .ok e → ∃ line,
          p.lines r {} = (e.run r {}).1.map .call ++ [line] ∧ line.about? = some p.source := by
  intro r
  have hfault : errorOf? (resolve r {} halfWritten).2 = some (.fault .divisionByZero) := by
    decide +kernel
  have hresolved : ∀ a, (resolve r {} halfWritten).2 ≠ .abort a := by
    rw [errorOf?_eq_some.1 hfault]
    nofun
  obtain ⟨visited, hvisits, -, hlines, -⟩ := (log_of_resolve r {}).2 halfWritten
  refine ⟨hresolved, by decide +kernel, visited, hvisits, fun p hp e hread => ?_⟩
  obtain ⟨line, hline, -, habout⟩ := hlines hresolved p hp e hread
  exact ⟨line, hline, habout⟩

/-- A series and, added to it, a whole number past the greatest double. -/
def beyondDoubles : List Char := braced ("dataset(1)+1".toList ++ List.replicate 309 '0')

/-- An abort leaves a placeholder that was taken up, and can be read, without its line. -/
theorem log_breaks_off :
    let r : Registry := { axis := [], members := [{ entries := [], id := 1 }] }
    (Placeholder.find beyondDoubles).length = 1 ∧
      (∀ p ∈ Placeholder.find beyondDoubles, ∃ e, Expr.read p.expression = .ok e) ∧
      (∃ a, (resolve r {} beyondDoubles).2 = .abort a) ∧
      (resolve r {} beyondDoubles).1.length = 1 ∧
      (resolve r {} beyondDoubles).1.filterMap Note.about? = [] := by
  intro r
  have hread : ∀ p ∈ Placeholder.find beyondDoubles,
      (Expr.read p.expression).toOption.isSome = true := by
    decide +kernel
  have habort : errorOf? (resolve r {} beyondDoubles).2 = some (.abort .intTooLarge) := by
    decide +kernel
  refine ⟨by decide +kernel, fun p hp => ?_, ⟨_, errorOf?_eq_some.1 habort⟩, by decide +kernel,
    by decide +kernel⟩
  obtain ⟨e, he⟩ := Option.isSome_iff_exists.1 (hread p hp)
  exact ⟨e, toOption_eq_some.1 he⟩

end Template

end Daybook
