import Mathlib.Algebra.GroupWithZero.Nat
import Mathlib.Data.List.Perm.Subperm
import Mathlib.Data.Nat.Find
import Daybook.Proofs.Text.Occurrences

/-!
Runs of a character. Counting pairs of one character without overlaps counts half of the length of
each run of it, so there are as many pairs as long runs exactly if no run has a second pair.
-/

namespace Daybook.Text

variable {a c : Char} {cs t : List Char} {i j k m n : ℕ}

/-- Behind the first `k` characters stand `n` that are all `a`, and on neither side a further
one. -/
structure IsRun (a : Char) (cs : List Char) (k n : ℕ) : Prop where
  all : ∀ i < n, cs[k + i]? = some a
  before : ∀ i, k = i + 1 → cs[i]? ≠ some a
  behind : cs[k + n]? ≠ some a

namespace IsRun

lemma getElem?_eq (h : IsRun a cs k n) (hk : k ≤ i) (hi : i < k + n) : cs[i]? = some a := by
  obtain ⟨j, rfl⟩ := Nat.exists_eq_add_of_le hk
  exact h.all j (by omega)

lemma eq_or_lt (h : IsRun a cs k n) (h' : IsRun a cs j m) (hkj : k ≤ j) :
    (k = j ∧ n = m) ∨ k + n < j := by
  rcases Nat.eq_or_lt_of_le hkj with rfl | hlt
  · rcases Nat.lt_trichotomy n m with hnm | rfl | hmn
    · exact absurd (h'.all n hnm) h.behind
    · exact .inl ⟨rfl, rfl⟩
    · exact absurd (h.all m hmn) h'.behind
  · refine .inr (Nat.lt_of_not_le fun hle => ?_)
    obtain ⟨i, rfl⟩ := Nat.exists_eq_add_of_lt hlt
    exact h'.before (k + i) rfl (h.getElem?_eq (by omega) (by omega))

end IsRun

lemma exists_isRun_here (h : cs[i]? = some a) (hbefore : ∀ j, i = j + 1 → cs[j]? ≠ some a) :
    ∃ n, IsRun a cs i n ∧ 0 < n := by
  -- it goes on to the first other character, or to the end of the text
  have hend : ∃ n, cs[i + n]? ≠ some a := ⟨cs.length, by simp⟩
  have hall : ∀ j < Nat.find hend, cs[i + j]? = some a := fun j hj =>
    not_not.1 (Nat.find_min hend hj)
  refine ⟨Nat.find hend, ⟨hall, hbefore, Nat.find_spec hend⟩, Nat.pos_of_ne_zero fun h0 => ?_⟩
  exact Nat.find_spec hend (by rw [h0]; exact h)

lemma exists_isRun (h : cs[i]? = some a) : ∃ k n, IsRun a cs k n ∧ k ≤ i ∧ i < k + n := by
  induction i with
  | zero =>
    obtain ⟨n, hrun, hn⟩ := exists_isRun_here h fun j hj => by cases hj
    exact ⟨0, n, hrun, le_rfl, by omega⟩
  | succ i ih =>
    by_cases hi : cs[i]? = some a
    · obtain ⟨k, n, hrun, hk, hn⟩ := ih hi
      refine ⟨k, n, hrun, by omega, Nat.lt_of_le_of_ne hn fun heq => ?_⟩
      exact hrun.behind (heq ▸ h)
    · obtain ⟨n, hrun, hn⟩ := exists_isRun_here h fun j hj => Nat.succ.inj hj ▸ hi
      exact ⟨i + 1, n, hrun, le_rfl, by omega⟩

lemma exists_isRun_pair (h : cs[i]? = some a) (h' : cs[i + 1]? = some a) :
    ∃ k n, IsRun a cs k n ∧ k ≤ i ∧ i + 2 ≤ k + n := by
  obtain ⟨k, n, hrun, hk, hi⟩ := exists_isRun h
  have hne : i + 1 ≠ k + n := fun heq => hrun.behind (heq ▸ h')
  exact ⟨k, n, hrun, hk, by omega⟩

/-- The runs of a text, each with its place and its length, where `n` characters that are `a` have
been read behind the first `k`. Behind other characters there may be runs without a character. -/
def runsFrom (a : Char) (k n : ℕ) : List Char → List (ℕ × ℕ)
  | [] => [(k, n)]
  | c :: cs => if c = a then runsFrom a k (n + 1) cs else (k, n) :: runsFrom a (k + n + 1) 0 cs

def runs (a : Char) (cs : List Char) : List (ℕ × ℕ) := runsFrom a 0 0 cs

lemma le_of_mem_runsFrom (h : (j, m) ∈ runsFrom a k n cs) : k ≤ j := by
  induction cs generalizing k n with
  | nil => cases List.mem_singleton.1 h; exact le_rfl
  | cons c cs ih =>
    rw [runsFrom] at h
    split at h
    · exact ih h
    · rcases List.mem_cons.1 h with heq | h
      · cases heq
        exact le_rfl
      · have := ih h
        omega

lemma pairwise_runsFrom (a : Char) (k n : ℕ) (cs : List Char) :
    (runsFrom a k n cs).Pairwise fun r s => r.1 + r.2 < s.1 := by
  induction cs generalizing k n with
  | nil => exact List.pairwise_singleton _ _
  | cons c cs ih =>
    rw [runsFrom]
    split
    · exact ih k (n + 1)
    · refine List.pairwise_cons.2 ⟨fun s hs => ?_, ih _ 0⟩
      have := le_of_mem_runsFrom hs
      simp only
      omega

/-- Listed are the runs that begin where the open one does or behind it: what is left of the text is
`t`, and what has been read ends with that open run. -/
lemma mem_runsFrom (hcs : cs.drop (k + n) = t) (hall : ∀ i < n, cs[k + i]? = some a)
    (hbefore : ∀ i, k = i + 1 → cs[i]? ≠ some a) (hm : 1 ≤ m) :
    (j, m) ∈ runsFrom a k n t ↔ k ≤ j ∧ IsRun a cs j m := by
  induction t generalizing k n with
  | nil =>
    have hnone : cs[k + n]? = none := List.getElem?_eq_none (List.drop_eq_nil_iff.1 hcs)
    have hrun : IsRun a cs k n := ⟨hall, hbefore, by simp [hnone]⟩
    rw [runsFrom, List.mem_singleton, Prod.mk.injEq]
    constructor
    · rintro ⟨rfl, rfl⟩
      exact ⟨le_rfl, hrun⟩
    · rintro ⟨hkj, hj⟩
      rcases hrun.eq_or_lt hj hkj with ⟨rfl, rfl⟩ | hlt
      · exact ⟨rfl, rfl⟩
      · have hfirst := hj.all 0 hm
        rw [List.getElem?_eq_none_iff] at hnone
        rw [List.getElem?_eq_none (by omega)] at hfirst
        cases hfirst
  | cons c t ih =>
    have hhere : cs[k + n]? = some c := by rw [← List.head?_drop, hcs, List.head?_cons]
    have hrest : cs.drop (k + n + 1) = t := by
      rw [← List.drop_drop, hcs, List.drop_one, List.tail_cons]
    rw [runsFrom]
    split
    · -- the open run goes on
      rename_i hc
      refine ih hrest (fun i hi => ?_) hbefore
      rcases Nat.lt_succ_iff_lt_or_eq.1 hi with hi | rfl
      · exact hall i hi
      · rw [hhere, hc]
    · rename_i hc
      have hother : cs[k + n]? ≠ some a := by
        rw [hhere]
        exact fun h => hc (Option.some.inj h)
      have hrun : IsRun a cs k n := ⟨hall, hbefore, hother⟩
      have hnext := ih (k := k + n + 1) (n := 0) hrest (fun i hi => by cases hi) fun i hi => by
        rw [← Nat.succ.inj hi]
        exact hother
      rw [List.mem_cons, hnext, Prod.mk.injEq]
      constructor
      · rintro (⟨rfl, rfl⟩ | ⟨hle, hj⟩)
        · exact ⟨le_rfl, hrun⟩
        · exact ⟨by omega, hj⟩
      · rintro ⟨hkj, hj⟩
        exact (hrun.eq_or_lt hj hkj).imp (fun h => ⟨h.1.symm, h.2.symm⟩) fun h => ⟨h, hj⟩

lemma mem_runs (hm : 1 ≤ m) : (j, m) ∈ runs a cs ↔ IsRun a cs j m := by
  have h : (j, m) ∈ runsFrom a 0 0 cs ↔ 0 ≤ j ∧ IsRun a cs j m :=
    mem_runsFrom rfl (fun i hi => by cases hi) (fun i hi => by cases hi) hm
  exact h.trans (and_iff_right (Nat.zero_le j))

/-! ### Pairs in runs -/

lemma countPair_replicate (ht : t.head? ≠ some a) (n : ℕ) :
    countPair a a (List.replicate n a ++ t) = n / 2 + countPair a a t := by
  induction n using Nat.twoStepInduction with
  | zero => simp
  | one =>
    cases t with
    | nil => rfl
    | cons c t =>
      have hc : ¬ (a = a ∧ c = a) := fun h => ht (by rw [h.2, List.head?_cons])
      rw [List.replicate_one, List.singleton_append, countPair, if_neg hc, Nat.zero_add]
  | more n ih _ =>
    rw [List.replicate_succ, List.replicate_succ, List.cons_append, List.cons_append,
      countPair_pair, ih]
    omega

lemma countPair_runsFrom (a : Char) (k n : ℕ) (cs : List Char) :
    countPair a a (List.replicate n a ++ cs) = ((runsFrom a k n cs).map (·.2 / 2)).sum := by
  induction cs generalizing k n with
  | nil =>
    rw [countPair_replicate (by simp)]
    rfl
  | cons c cs ih =>
    rw [runsFrom]
    split
    · rename_i hc
      rw [← ih, hc, List.replicate_succ', List.append_assoc, List.singleton_append]
    · rename_i hc
      have hhead : (c :: cs).head? ≠ some a := fun h => hc (Option.some.inj h)
      rw [countPair_replicate hhead, countPair_cons hc, List.map_cons, List.sum_cons,
        ← ih (k + n + 1) 0]
      rfl

lemma countPair_runs (a : Char) (cs : List Char) :
    countPair a a cs = ((runs a cs).map (·.2 / 2)).sum := countPair_runsFrom a 0 0 cs

def longRuns (a : Char) (cs : List Char) : List (ℕ × ℕ) := (runs a cs).filter (2 ≤ ·.2)

lemma mem_longRuns : (k, n) ∈ longRuns a cs ↔ IsRun a cs k n ∧ 2 ≤ n := by
  rw [longRuns, List.mem_filter, decide_eq_true_iff]
  constructor
  · rintro ⟨hmem, hn⟩
    exact ⟨(mem_runs (by omega)).1 hmem, hn⟩
  · rintro ⟨hrun, hn⟩
    exact ⟨(mem_runs (by omega)).2 hrun, hn⟩

lemma length_longRuns_le (a : Char) (cs : List Char) :
    (longRuns a cs).length ≤ countPair a a cs ∧
      (countPair a a cs = (longRuns a cs).length ↔ ∀ r ∈ longRuns a cs, r.2 ≤ 3) := by
  rw [countPair_runs, longRuns]
  induction runs a cs with
  | nil => simp
  | cons r rs ih =>
    rw [List.map_cons, List.sum_cons, List.filter_cons]
    split
    · rename_i hr
      rw [decide_eq_true_iff] at hr
      rw [List.length_cons, List.forall_mem_cons, ← ih.2]
      omega
    · rename_i hr
      rw [decide_eq_true_iff] at hr
      rw [show r.2 / 2 = 0 by omega, Nat.zero_add]
      exact ih

lemma nodup_map_longRuns {f : ℕ × ℕ → ℕ} (hf : ∀ r, 2 ≤ r.2 → r.1 ≤ f r ∧ f r ≤ r.1 + r.2) :
    ((longRuns a cs).map f).Nodup := by
  refine List.pairwise_map.2 (((pairwise_runsFrom a 0 0 cs).filter _).imp_of_mem ?_)
  intro r s hr hs hrs
  have hr := hf r (mem_longRuns.1 hr).2
  have hs := hf s (mem_longRuns.1 hs).2
  omega

/-- Some of the members are as many as all if they are all. -/
lemma length_eq_iff_forall_mem {ks rs : List ℕ} (hks : ks.Nodup) (hrs : rs.Nodup) (h : ks ⊆ rs) :
    ks.length = rs.length ↔ ∀ r ∈ rs, r ∈ ks := by
  constructor
  · intro heq r hr
    exact ((hks.subperm h).perm_of_length_le (Nat.le_of_eq heq.symm)).symm.subset hr
  · intro hall
    exact Nat.le_antisymm (hks.length_le_of_subset h) (hrs.length_le_of_subset hall)

/-- Let every key be the key of a long run. Then there are no more keys than pairs, and as many
exactly if every long run has one pair only and a key. -/
lemma length_le_countPair {f : ℕ × ℕ → ℕ} (hf : ∀ r, 2 ≤ r.2 → r.1 ≤ f r ∧ f r ≤ r.1 + r.2)
    {ks : List ℕ} (hks : ks.Nodup)
    (h : ∀ key ∈ ks, ∃ k n, IsRun a cs k n ∧ 2 ≤ n ∧ f (k, n) = key) :
    ks.length ≤ countPair a a cs ∧ (countPair a a cs = ks.length ↔
      ∀ k n, IsRun a cs k n → 2 ≤ n → n ≤ 3 ∧ f (k, n) ∈ ks) := by
  have hsubset : ks ⊆ (longRuns a cs).map f := by
    intro key hkey
    obtain ⟨k, n, hrun, hn, rfl⟩ := h key hkey
    exact List.mem_map_of_mem (mem_longRuns.2 ⟨hrun, hn⟩)
  have hruns := hks.length_le_of_subset hsubset
  have hall := length_eq_iff_forall_mem hks (nodup_map_longRuns hf) hsubset
  rw [List.length_map] at hruns hall
  obtain ⟨hpairs, hone⟩ := length_longRuns_le a cs
  -- the long runs lie between the two counts, so both steps have to be equalities
  have hsplit : countPair a a cs = ks.length ↔
      countPair a a cs = (longRuns a cs).length ∧ ks.length = (longRuns a cs).length := by omega
  refine ⟨Nat.le_trans hruns hpairs, ?_⟩
  rw [hsplit, hone, hall, List.forall_mem_map, ← forall₂_and]
  constructor
  · exact fun hkeys k n hrun hn => hkeys (k, n) (mem_longRuns.2 ⟨hrun, hn⟩)
  · rintro hkeys ⟨k, n⟩ hr
    exact hkeys k n (mem_longRuns.1 hr).1 (mem_longRuns.1 hr).2

end Daybook.Text
