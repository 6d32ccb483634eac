import Daybook.Proofs.Evaluation.Members
import Daybook.Proofs.Number.Counts
import Daybook.Proofs.Series.Kept
import Daybook.Proofs.Session.Statistics

/-!
The average of a series, and its sum over the number of its days with a value. The average divides
by the count that is kept with the series, without asking an operator; the other goes through two
calls and a division that refuses zeros. They agree because the count is right whatever has been
done to the series, and a count is zero as a double only where it is zero.
-/

namespace Daybook

namespace Summary

variable {s : Series}

/-- The sum of the values over their number. Without values there is nothing to divide by. -/
def mean (s : Series) : Outcome Value :=
  if s.present = [] then .fault .divisionByZero
  else .ok (.number (total s.present / Number.ofNat s.present.length))

lemma average_of (hs : s.stats.count = s.present.length) (c : Context) :
    average.of c s = mean s := by
  simp only [of, hs, mean, List.length_eq_zero_iff]

end Summary

lemma Operator.admits_ofNat {o : Operator} {n : ℕ} (hn : 0 < n) : o.Admits (Number.ofNat n) := by
  intro _
  rw [← Bool.not_eq_true]
  intro hzero
  exact (Number.not_lt_of_beq hzero).2 (Number.zero_lt_ofNat.2 hn)

lemma Operator.div_ofNat_zero (x : Float) :
    Operator.div.apply (.ok (.number x)) (.ok (.number (Number.ofNat 0))) =
      .error .divisionByZero := by
  have hzero : (Number.ofNat 0 == 0.0) = true := by decide +kernel
  simp [apply, Value.isOperand, Value.isNumber, Value.isDivisor, divides, hzero]

namespace Expr

variable {r : Registry} {c : Context} {args : List Expr} {s : Series}

/-- The sum divided by the number of days with a value. -/
def sumOverDays (args : List Expr) : Expr :=
  .binary .div (.call "sum" args) (.call "numDaysHavingData" args)

lemma evaluate_sumOverDays (hs : s.stats.count = s.present.length) (h : About r c args s) :
    (sumOverDays args).evaluate r c = Summary.mean s := by
  have hsum : (call "sum" args).evaluate r c = Summary.sum.of c s :=
    evaluate_summary (by decide) h
  have hcount : (call "numDaysHavingData" args).evaluate r c = Summary.daysPresent.of c s :=
    evaluate_summary (by decide) h
  rw [sumOverDays, evaluate_binary, hsum, hcount]
  simp only [Summary.of, ok_bind, hs, Summary.mean]
  split
  · rename_i hnone
    rw [hnone, List.length_nil, Operator.div_ofNat_zero]
    rfl
  · rename_i hsome
    have hadmits := Operator.admits_ofNat (o := .div) (List.length_pos_iff.2 hsome)
    rw [Operator.apply_eq_ok.2 (.numbers hadmits)]
    rfl

end Expr

namespace Session

variable {σ : Session} {c : Context} {e : Expr} {args : List Expr} {s : Series} {o : Origin}

lemma mem_slots_of_mem_members (h : s ∈ σ.toRegistry.members) : s ∈ σ.slots := by
  obtain ⟨i, -, hi⟩ := List.mem_filterMap.1 h
  exact List.mem_of_getElem? hi

lemma kept_of_evaluate (hσ : ∀ s ∈ σ.slots, s.Kept)
    (h : e.evaluate σ.toRegistry c = .ok (.series s o)) : s.Kept := by
  rcases Expr.computed_of_evaluate h with hs | ⟨arg, t, k, -, heq⟩
  · exact .computed (hs s o rfl).2
  · cases heq
    exact hσ s (mem_slots_of_mem_members (List.mem_of_getElem? (Expr.member_of_evaluate h)))

lemma kept_of_about (hσ : ∀ s ∈ σ.slots, s.Kept) (h : Expr.About σ.toRegistry c args s) :
    s.Kept := by
  cases h with
  | given hx => exact kept_of_evaluate hσ hx
  | plotted hs => exact hσ s (mem_slots_of_mem_members (List.mem_of_find?_eq_some hs))

/-- **The average is the sum over the count**, on the registry that any run leaves, if the figures
of all series belonged to their values when it began. The two have the same number, or nothing
to divide by, and without a plotted series both have no dataset to ask. -/
theorem average_eq_sumOverDays (hσ : ∀ s ∈ σ.slots, s.stats = s.recalculate.stats)
    (steps : List Step) (c : Context) :
    (∀ args s, Expr.About (σ.run steps).toRegistry c args s →
      (Expr.call "average" args).evaluate (σ.run steps).toRegistry c = Summary.mean s ∧
        (Expr.sumOverDays args).evaluate (σ.run steps).toRegistry c = Summary.mean s) ∧
    ((σ.run steps).toRegistry.default? = none → ∃ f g,
      (Expr.call "average" []).evaluate (σ.run steps).toRegistry c = .fault f ∧
        (Expr.sumOverDays []).evaluate (σ.run steps).toRegistry c = .fault g ∧
        f.kind = .noDataset ∧ g.kind = .noDataset) := by
  -- the count that average reads is kept right by every step
  have hkept := kept_run (fun s hs => .computed (hσ s hs)) steps
  refine ⟨fun args s h => ?_, fun hnone => ?_⟩
  · have hcount := (kept_of_about hkept h).count_eq
    have haverage : Function.ofName? "average" = some (.summary .average) := by decide
    exact ⟨(Expr.evaluate_summary haverage h).trans (Summary.average_of hcount c),
      Expr.evaluate_sumOverDays hcount h⟩
  · refine ⟨.noDefaultDataset "average", .noDefaultDataset "sum",
      Expr.evaluate_summary_of_none (f := .average) (by decide) hnone, ?_, rfl, rfl⟩
    rw [Expr.sumOverDays, Expr.evaluate_binary,
      Expr.evaluate_summary_of_none (f := .sum) (by decide) hnone]
    rfl

theorem average_eq_sumOverDays_backwards :
    (∀ s ∈ leapDays.slots, s.stats = s.recalculate.stats) ∧
    (∃ s, (leapDays.run backwards).toRegistry.default? = some s ∧
      s.values = [some 1.0, none, some (-1.0)] ∧
      (Expr.call "average" []).evaluate (leapDays.run backwards).toRegistry {} = Summary.mean s ∧
      (Expr.sumOverDays []).evaluate (leapDays.run backwards).toRegistry {} = Summary.mean s) ∧
    leapDays.toRegistry.default? = none ∧
      ∃ f g, (Expr.call "average" []).evaluate (leapDays.run []).toRegistry {} = .fault f ∧
        (Expr.sumOverDays []).evaluate (leapDays.run []).toRegistry {} = .fault g ∧
        f.kind = .noDataset ∧ g.kind = .noDataset := by
  have hslots : ∀ s ∈ leapDays.slots, s.stats = s.recalculate.stats := by simp [leapDays]
  have hs : (leapDays.run backwards).toRegistry.default?.map (·.values) =
      some [some 1.0, none, some (-1.0)] := by decide +kernel
  obtain ⟨s, hs, hvalues⟩ := Option.map_eq_some_iff.1 hs
  obtain ⟨haverage, hsum⟩ :=
    (average_eq_sumOverDays hslots backwards {}).1 [] s (.plotted hs)
  exact ⟨hslots, ⟨s, hs, hvalues, haverage, hsum⟩, rfl,
    (average_eq_sumOverDays hslots [] {}).2 rfl⟩

end Session

end Daybook
