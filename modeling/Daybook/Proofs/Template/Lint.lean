import Daybook.Proofs.Template.Spans
import Daybook.Proofs.Text.Runs
import Daybook.Template.Check

/-!
The counts of the lint. The opening braces of a placeholder are the last two of a run of them and
the closing ones the first two of a run, so there are no more placeholders than pairs of either
kind; there are as many exactly if no run has a pair that belongs to no placeholder.
-/

namespace Daybook

open Text

variable {a : Char} {w cs : List Char} {i k : ℕ} {limit : ℤ}

lemma Text.OccursAt.getElem?_eq (h : OccursAt w cs k) (hi : i < w.length) :
    cs[k + i]? = w[i]? := by
  obtain ⟨t, ht⟩ := h
  rw [← List.getElem?_drop, ← ht, List.getElem?_append_left hi]

namespace Placeholder

variable {p : Placeholder}

lemma Proper.exists_isRun_open (hp : p.Proper) (h : OccursAt p.source cs k) :
    ∃ j n, IsRun '\x7b' cs j n ∧ 2 ≤ n ∧ j + n = k + 2 := by
  obtain ⟨body, hbody, hne, hbf⟩ := hp.source_eq
  obtain ⟨b, body, rfl⟩ := List.exists_cons_of_ne_nil hne
  rw [hbody] at h
  have hfirst : cs[k + 0]? = some '\x7b' := h.getElem?_eq (by simp [braced])
  have hsecond : cs[k + 1]? = some '\x7b' := h.getElem?_eq (by simp [braced])
  have hthird : cs[k + 2]? = some b := h.getElem?_eq (by simp [braced])
  obtain ⟨j, n, hrun, hj, hn⟩ := exists_isRun_pair hfirst hsecond
  have hend : j + n ≤ k + 2 := by
    by_contra hlt
    have hbrace := hrun.getElem?_eq (i := k + 2) (by omega) (by omega)
    rw [hthird, Option.some.injEq] at hbrace
    exact head_ne_of_braceFree hbf hbrace
  exact ⟨j, n, hrun, by omega, by omega⟩

lemma Proper.exists_isRun_close (hp : p.Proper) (h : OccursAt p.source cs k) :
    ∃ j n, IsRun '\x7d' cs j n ∧ 2 ≤ n ∧ j + 2 = k + p.source.length := by
  obtain ⟨body, hbody, hne, hbf⟩ := hp.source_eq
  obtain ⟨body, b, rfl⟩ := (List.eq_nil_or_concat' body).resolve_left hne
  have hlength : p.source.length = body.length + 5 := by simp [hbody, braced]
  rw [hbody] at h
  have hlast : cs[k + (body.length + 2)]? = some b := by
    rw [h.getElem?_eq (by simp [braced])]
    simp [braced]
  have hfirst : cs[k + (body.length + 3)]? = some '\x7d' := by
    rw [h.getElem?_eq (by simp [braced])]
    simp [braced]
  have hsecond : cs[k + (body.length + 4)]? = some '\x7d' := by
    rw [h.getElem?_eq (by simp [braced])]
    simp [braced]
  obtain ⟨j, n, hrun, hj, hn⟩ := exists_isRun_pair hfirst hsecond
  -- the character before the braces is no brace, so the run begins at them
  have hbegin : k + (body.length + 3) ≤ j := by
    by_contra hlt
    have hbrace := hrun.getElem?_eq (i := k + (body.length + 2)) (by omega) (by omega)
    rw [hlast, Option.some.injEq] at hbrace
    rw [braceFree_append, braceFree_cons, hbrace] at hbf
    cases hbf.2.1
  exact ⟨j, n, hrun, by omega, by omega⟩

end Placeholder

/-- The lint has nothing to say of the delimiters. -/
def Lint.Quiet (l : Lint) : Prop := (∀ o c, .unbalanced o c ∉ l.errors) ∧ l.warnings = []

lemma Lint.quiet_of : (Lint.of limit cs).Quiet ↔
    opened cs = closed cs ∧ min (opened cs) (closed cs) ≤ (Placeholder.all cs).length := by
  refine and_congr ?_ ?_
  · rw [Lint.of]
    constructor
    · intro h
      by_contra hne
      exact h _ _ (by rw [if_neg hne]; exact List.mem_append_right _ (List.mem_singleton_self _))
    · intro heq o c hmem
      rw [if_pos heq, List.append_nil] at hmem
      split at hmem
      · cases List.mem_singleton.1 hmem
      · cases hmem
  · rw [warnings, ite_eq_left_iff, ← Nat.sub_eq_zero_iff_le]
    exact ⟨fun h => not_not.1 fun hne => List.cons_ne_nil _ _ (h hne), fun h hne => absurd h hne⟩

namespace Template

open Placeholder

lemma pairwise_ends_spans (cs : List Char) :
    (spans cs).Pairwise fun s t => s.1 + s.2.source.length < t.1 + t.2.source.length := by
  refine (pairwise_spansFrom (scanned_pieces cs) 0).imp_of_mem fun {s t} hs ht hlt => ?_
  obtain ⟨hp, hk⟩ := mem_spans.1 hs
  obtain ⟨hq, hl⟩ := mem_spans.1 ht
  have hpos := List.length_pos_of_ne_nil hq.source_ne_nil
  rcases hp.disjoint hq hk hl hlt.le with ⟨heq, -⟩ | hle
  · exact absurd heq hlt.ne
  · omega

/-- Let a place of every placeholder be that of a long run, and let these places rise. Then there
are no more placeholders than pairs, and as many exactly if every long run has one pair only and is
that of a placeholder. -/
lemma length_all_le_countPair {f : ℕ × ℕ → ℕ} {g : ℕ × Placeholder → ℕ}
    (hf : ∀ r, 2 ≤ r.2 → r.1 ≤ f r ∧ f r ≤ r.1 + r.2)
    (hg : (spans cs).Pairwise fun s t => g s < g t)
    (h : ∀ s ∈ spans cs, ∃ k n, IsRun a cs k n ∧ 2 ≤ n ∧ f (k, n) = g s) :
    (all cs).length ≤ countPair a a cs ∧ (countPair a a cs = (all cs).length ↔
      ∀ k n, IsRun a cs k n → 2 ≤ n → n ≤ 3 ∧ ∃ s ∈ spans cs, g s = f (k, n)) := by
  have hlength : (all cs).length = ((spans cs).map g).length := by
    rw [← map_snd_spans, List.length_map, List.length_map]
  have hkeys : ((spans cs).map g).Nodup := List.pairwise_map.2 (hg.imp Nat.ne_of_lt)
  rw [hlength]
  simp only [← List.mem_map]
  exact length_le_countPair hf hkeys (List.forall_mem_map.2 h)

lemma length_all_le_opened (cs : List Char) : (all cs).length ≤ Lint.opened cs ∧
    (Lint.opened cs = (all cs).length ↔ ∀ k n, IsRun '\x7b' cs k n → 2 ≤ n →
      n ≤ 3 ∧ ∃ s ∈ spans cs, s.1 + 2 = k + n) := by
  refine length_all_le_countPair (f := fun r => r.1 + r.2) (g := fun s => s.1 + 2)
    (fun r _ => ⟨Nat.le_add_right _ _, le_rfl⟩) ?_ fun s hs => ?_
  · exact (pairwise_spansFrom (scanned_pieces cs) 0).imp fun h => Nat.add_lt_add_right h 2
  · obtain ⟨hp, hocc⟩ := mem_spans.1 hs
    exact hp.exists_isRun_open hocc

lemma length_all_le_closed (cs : List Char) : (all cs).length ≤ Lint.closed cs ∧
    (Lint.closed cs = (all cs).length ↔ ∀ k n, IsRun '\x7d' cs k n → 2 ≤ n →
      n ≤ 3 ∧ ∃ s ∈ spans cs, s.1 + s.2.source.length = k + 2) := by
  refine length_all_le_countPair (f := fun r => r.1 + 2) (g := fun s => s.1 + s.2.source.length)
    (fun r hr => ⟨Nat.le_add_right _ _, Nat.add_le_add_left hr _⟩) (pairwise_ends_spans cs)
    fun s hs => ?_
  obtain ⟨hp, hocc⟩ := mem_spans.1 hs
  exact hp.exists_isRun_close hocc

/-- **The counts of the lint fit together.** There are no more placeholders than pairs of opening
braces, and no more than pairs of closing ones, so what the lint counts as unmatched is a true
difference. It has nothing to say of the delimiters exactly if the three numbers are the same. They
are exactly if every run of two opening braces or more has two or three, the last two of which begin
a placeholder, and every run of two closing braces or more has two or three, the first two of which
end one. -/
theorem lint_counts (limit : ℤ) (cs : List Char) :
    ((all cs).length ≤ Lint.opened cs ∧ (all cs).length ≤ Lint.closed cs) ∧
    (Lint.of limit cs).unmatched + (all cs).length = min (Lint.opened cs) (Lint.closed cs) ∧
    ((Lint.of limit cs).Quiet ↔
      Lint.opened cs = (all cs).length ∧ Lint.closed cs = (all cs).length) ∧
    (Lint.opened cs = (all cs).length ∧ Lint.closed cs = (all cs).length ↔
      (∀ k n, IsRun '\x7b' cs k n → 2 ≤ n →
        (n = 2 ∨ n = 3) ∧ ∃ s ∈ spans cs, s.1 + 2 = k + n) ∧
      ∀ k n, IsRun '\x7d' cs k n → 2 ≤ n →
        (n = 2 ∨ n = 3) ∧ ∃ s ∈ spans cs, s.1 + s.2.source.length = k + 2) := by
  obtain ⟨hopened, hopened_iff⟩ := length_all_le_opened cs
  obtain ⟨hclosed, hclosed_iff⟩ := length_all_le_closed cs
  have hshort : ∀ n : ℕ, 2 ≤ n → ((n = 2 ∨ n = 3) ↔ n ≤ 3) := fun n hn => by omega
  refine ⟨⟨hopened, hclosed⟩, Nat.sub_add_cancel (Nat.le_min.2 ⟨hopened, hclosed⟩), ?_, ?_⟩
  · rw [Lint.quiet_of]
    omega
  · rw [hopened_iff, hclosed_iff]
    -- the two conditions differ only in the way the short runs are written
    refine and_congr ?_ ?_
    all_goals
      refine forall_congr' fun k => forall_congr' fun n => forall_congr' fun _ =>
        forall_congr' fun hn => ?_
      rw [hshort n hn]

end Template

end Daybook
