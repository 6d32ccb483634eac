import Mathlib.Data.List.Basic
import Daybook.Text.Chars

/-!
Looking up the class of a character. The runs of the table rise, so that halving finds the run
that holds a code point, and one pass over the table tells the classes of many code points.
-/

namespace Daybook.Text

def runStart (i : ℕ) : ℕ := (classRuns.getD i (0, .hidden)).1

lemma runStart_eq {i : ℕ} (h : i < classRuns.toList.length) :
    runStart i = (classRuns.toList[i]).1 := by
  rw [runStart, Array.getD_eq_getD_getElem?, ← Array.getElem?_toList, List.getElem?_eq_getElem h]
  rfl

lemma runStart_mono {i j : ℕ} (hij : i ≤ j) (hj : j < classRuns.size) :
    runStart i ≤ runStart j := by
  have hrise : ((classRuns.toList.zip classRuns.toList.tail).all
      fun p => Nat.ble p.1.1 p.2.1) = true := by decide +kernel
  induction hij with
  | refl => exact Nat.le_refl _
  | @step j _ ih =>
    have hj' : j + 1 < classRuns.toList.length := hj
    have hzip : j < (classRuns.toList.zip classRuns.toList.tail).length := by
      rw [List.length_zip, List.length_tail]
      omega
    have hstep := List.all_eq_true.1 hrise _ (List.getElem_mem hzip)
    rw [List.getElem_zip, List.getElem_tail] at hstep
    refine Nat.le_trans (ih (Nat.lt_of_succ_lt hj)) ?_
    rw [runStart_eq (Nat.lt_of_succ_lt hj'), runStart_eq hj']
    exact Nat.le_of_ble_eq_true hstep

variable {n : ℕ}

/-- **Halving finds the last run that begins at or before the code point.** -/
lemma bisect_spec {k lo hi : ℕ} (hlt : lo < hi) (hk : hi - lo ≤ k) (hsize : hi ≤ classRuns.size)
    (hlo : runStart lo ≤ n) (hhi : ∀ i, hi ≤ i → i < classRuns.size → n < runStart i) :
    bisect n k lo hi < classRuns.size ∧ runStart (bisect n k lo hi) ≤ n ∧
      ∀ i, bisect n k lo hi < i → i < classRuns.size → n < runStart i := by
  induction k generalizing lo hi with
  | zero => omega
  | succ k ih =>
    rw [bisect]
    split
    · exact ⟨by omega, hlo, fun i hi' => hhi i (by omega)⟩
    · simp only
      split
      · rename_i hmid
        exact ih (by omega) (by omega) hsize hmid hhi
      · rename_i hmid
        refine ih (by omega) (by omega) (by omega) hlo fun i hi' hs => ?_
        have hle : runStart ((lo + hi) / 2) ≤ runStart i := runStart_mono hi' hs
        rw [runStart] at hle
        omega

lemma tableClass_of_run {i : ℕ} (hi : i + 1 < classRuns.size) (hle : runStart i ≤ n)
    (hlt : n < runStart (i + 1)) : tableClass n = (classRuns.getD i (0, .hidden)).2 := by
  have hzero : runStart 0 = 0 := by decide +kernel
  have hstart : runStart 0 ≤ n := by rw [hzero]; exact Nat.zero_le n
  have hsize : 0 < classRuns.size := Nat.lt_of_le_of_lt (Nat.zero_le _) hi
  obtain ⟨hs, hfound, hnext⟩ := bisect_spec hsize (Nat.sub_le _ _) (Nat.le_refl _) hstart
    (fun i h h' => absurd h' (Nat.not_lt.2 h))
  have hle : bisect n classRuns.size 0 classRuns.size = i := by
    rcases Nat.lt_trichotomy (bisect n classRuns.size 0 classRuns.size) i with h | h | h
    · have := hnext i h (by omega)
      omega
    · exact h
    · have hmono : runStart (i + 1) ≤ runStart (bisect n classRuns.size 0 classRuns.size) :=
        runStart_mono h hs
      omega
  rw [tableClass, hle]

/-- Whether each interval of `w` code points that begins at one of the given ones lies in a run
with a fitting class. -/
def inRuns (w : ℕ) (p : CharClass → Bool) : List (ℕ × CharClass) → List ℕ → Bool
  | a :: b :: rs, zs =>
    ((zs.takeWhile fun z => Nat.blt z b.1).all fun z =>
      Nat.ble a.1 z && (Nat.ble (z + w) b.1 && p a.2)) &&
      inRuns w p (b :: rs) (zs.dropWhile fun z => Nat.blt z b.1)
  | _, zs => zs.isEmpty

lemma exists_run {w : ℕ} {p : CharClass → Bool} {rs : List (ℕ × CharClass)} {zs : List ℕ}
    (h : inRuns w p rs zs = true) {z : ℕ} (hz : z ∈ zs) :
    ∃ i a b, rs[i]? = some a ∧ rs[i + 1]? = some b ∧ a.1 ≤ z ∧ z + w ≤ b.1 ∧ p a.2 = true := by
  induction rs generalizing zs with
  | nil =>
    cases zs with
    | nil => cases hz
    | cons => cases h
  | cons a rs ih =>
    cases rs with
    | nil =>
      cases zs with
      | nil => cases hz
      | cons => cases h
    | cons b rs =>
      rw [inRuns, Bool.and_eq_true, List.all_eq_true] at h
      obtain ⟨hhere, hlater⟩ := h
      -- the starts before the next run fit into this one, the others lie further on
      rw [← List.takeWhile_append_dropWhile (p := fun z => Nat.blt z b.1) (l := zs),
        List.mem_append] at hz
      rcases hz with hz | hz
      · have hfit := hhere z hz
        simp only [Bool.and_eq_true] at hfit
        obtain ⟨hle, hlt, hp⟩ := hfit
        exact ⟨0, a, b, rfl, rfl, Nat.le_of_ble_eq_true hle, Nat.le_of_ble_eq_true hlt, hp⟩
      · obtain ⟨i, a', b', ha, hb, hrest⟩ := ih hlater hz
        exact ⟨i + 1, a', b', ha, hb, hrest⟩

lemma tableClass_of_inRuns {w : ℕ} {p : CharClass → Bool} {zs : List ℕ}
    (h : inRuns w p classRuns.toList zs = true) {z k : ℕ} (hz : z ∈ zs) (hk : k < w) :
    p (tableClass (z + k)) = true := by
  obtain ⟨i, a, b, ha, hb, hle, hlt, hp⟩ := exists_run h hz
  rw [Array.getElem?_toList] at ha hb
  have hi : i + 1 < classRuns.size := (Array.getElem?_eq_some_iff.1 hb).1
  have hsa : classRuns.getD i (0, .hidden) = a := by
    rw [Array.getD_eq_getD_getElem?, ha]
    rfl
  have hsb : runStart (i + 1) = b.1 := by
    rw [runStart, Array.getD_eq_getD_getElem?, hb]
    rfl
  rw [tableClass_of_run hi (by rw [runStart, hsa]; omega) (by rw [hsb]; omega), hsa]
  exact hp

end Daybook.Text
