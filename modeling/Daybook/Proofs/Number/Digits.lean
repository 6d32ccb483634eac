import Mathlib.Tactic.Common
import Daybook.Number.Numeral

/-!
Reading digits. A run of common digits is read to its end and has the value that it was written
for.
-/

namespace Daybook.Number

open Text

variable {c : Char} {cs rest : List Char}

def digitValues (cs : List Char) : List ℕ := cs.map fun c => c.toNat - 48

/-- Nothing that a run of digits could go on with. -/
def Stops (rest : List Char) : Prop := ∀ c r, rest = c :: r → decimal? c = none ∧ c ≠ '_'

lemma stops_cons (hd : decimal? c = none) (hu : c ≠ '_') : Stops (c :: cs) := by
  intro d r h
  cases h
  exact ⟨hd, hu⟩

def IsDigits (cs : List Char) : Prop := ∀ c ∈ cs, c.isDigit = true

lemma IsDigits.append {ds : List Char} (hc : IsDigits cs) (hd : IsDigits ds) :
    IsDigits (cs ++ ds) := by
  intro c h
  rcases List.mem_append.1 h with h | h
  · exact hc c h
  · exact hd c h

lemma isDigits_take {ds : List Char} (hds : IsDigits ds) (k : ℕ) : IsDigits (ds.take k) :=
  fun c hc => hds c (List.mem_of_mem_take hc)

lemma isDigits_drop {ds : List Char} (hds : IsDigits ds) (k : ℕ) : IsDigits (ds.drop k) :=
  fun c hc => hds c (List.mem_of_mem_drop hc)

lemma isDigits_replicate (n : ℕ) : IsDigits (List.replicate n '0') := by
  intro c h
  rw [(List.mem_replicate.1 h).2]
  rfl

lemma isDigits_natDigits (n : ℕ) : IsDigits (natDigits n) := fun _ h =>
  Nat.isDigit_of_mem_toDigits (by decide) (by decide) h

lemma natDigits_ne_nil (n : ℕ) : natDigits n ≠ [] := Nat.toDigits_ne_nil

lemma natDigits_append_ne_cons (hc : c.isDigit = false) (n : ℕ) (rest r : List Char) :
    natDigits n ++ rest ≠ c :: r := by
  intro h
  obtain ⟨d, ds, hds⟩ := List.exists_cons_of_ne_nil (natDigits_ne_nil n)
  have hd := isDigits_natDigits n d (by rw [hds]; exact List.mem_cons_self)
  rw [hds, List.cons_append, List.cons.injEq] at h
  rw [h.1, hc] at hd
  cases hd

lemma bounds_of_isDigit (h : c.isDigit = true) : 48 ≤ c.toNat ∧ c.toNat ≤ 57 := by
  simp only [Char.isDigit, Bool.and_eq_true, decide_eq_true_eq, ge_iff_le,
    UInt32.le_iff_toNat_le] at h
  exact h

lemma decimal?_of_isDigit (h : c.isDigit = true) : decimal? c = some (c.toNat - 48) := by
  obtain ⟨h0, h9⟩ := bounds_of_isDigit h
  rw [decimal?, if_pos (show c.toNat < 128 by omega), if_pos ⟨h0, h9⟩]

lemma digit?_of_isDigit (h : c.isDigit = true) : digit? c = some (c.toNat - 48) := by
  obtain ⟨h0, h9⟩ := bounds_of_isDigit h
  rw [digit?, if_pos ⟨h0, h9⟩]

lemma ne_underscore_of_isDigit (h : c.isDigit = true) : c ≠ '_' := by
  rintro rfl
  cases h

lemma digitRun_cons {n : ℕ} (hc : decimal? c = some n) (hcs : ∀ r, cs ≠ '_' :: r) :
    digitRun decimal? (c :: cs) = (n :: (digitRun decimal? cs).1, (digitRun decimal? cs).2) := by
  rw [digitRun, hc]
  cases cs with
  | nil => rfl
  | cons d ds =>
    by_cases hd : d = '_'
    · exact absurd (by rw [hd]) (hcs ds)
    · simp

lemma digitRun_stop (h : Stops rest) : digitRun decimal? rest = ([], rest) := by
  cases rest with
  | nil => rfl
  | cons c r => rw [digitRun, (h c r rfl).1]

lemma ne_underscore (hcs : IsDigits cs) (hrest : Stops rest) (r : List Char) :
    cs ++ rest ≠ '_' :: r := by
  cases cs with
  | nil =>
    intro h
    exact (hrest '_' r h).2 rfl
  | cons c cs =>
    intro h
    exact ne_underscore_of_isDigit (hcs c List.mem_cons_self) (List.cons.inj h).1

lemma digitRun_digits (hcs : IsDigits cs) (hrest : Stops rest) :
    digitRun decimal? (cs ++ rest) = (digitValues cs, rest) := by
  induction cs with
  | nil => exact digitRun_stop hrest
  | cons c cs ih =>
    have hc := decimal?_of_isDigit (hcs c List.mem_cons_self)
    have hcs' : IsDigits cs := fun d hd => hcs d (List.mem_cons_of_mem c hd)
    rw [List.cons_append, digitRun_cons hc (ne_underscore hcs' hrest), ih hcs']
    rfl

lemma ofDigits_natDigits (n : ℕ) : ofDigits 10 (digitValues (natDigits n)) = n := by
  have h : Nat.ofDigitChars 10 (Nat.toDigits 10 n) 0 = n := Nat.ofDigitChars_ten_toDigits
  rw [Nat.ofDigitChars_eq_foldl] at h
  rw [ofDigits, digitValues, List.foldl_map]
  exact h

lemma head_natDigits {n : ℕ} (hn : 0 < n) : ∃ c cs, natDigits n = c :: cs ∧ c ≠ '0' := by
  induction n using Nat.strongRecOn with
  | ind n ih =>
    rw [natDigits, Nat.toDigits_eq_if (by decide)]
    split
    · refine ⟨_, _, rfl, ?_⟩
      rw [ne_eq, Nat.digitChar_eq_zero]
      omega
    · obtain ⟨c, cs, hcs, hc⟩ := ih (n / 10) (by omega) (by omega)
      rw [natDigits] at hcs
      rw [hcs]
      exact ⟨c, _, rfl, hc⟩

/-! ### Zeros in front -/

lemma isDigits_paddedNat (w n : ℕ) : IsDigits (paddedNat w n) :=
  (isDigits_replicate _).append (isDigits_natDigits n)

lemma ofDigits_paddedNat (w n : ℕ) : ofDigits 10 (digitValues (paddedNat w n)) = n := by
  have hzeros : ∀ k : ℕ,
      (digitValues (List.replicate k '0')).foldl (fun v d => 10 * v + d) 0 = 0 := by
    intro k
    induction k with
    | zero => rfl
    | succ k ih => exact ih
  have h := ofDigits_natDigits n
  rw [ofDigits, digitValues] at h
  rw [ofDigits, paddedNat, padLeft, digitValues, List.map_append, List.foldl_append]
  have hz := hzeros (w - (natDigits n).length)
  rw [digitValues] at hz
  rw [hz, h]

lemma length_paddedNat {w n : ℕ} (hw : 0 < w) (h : n < pow10 w) :
    (paddedNat w n).length = w := by
  have hle : (natDigits n).length ≤ w := (Nat.length_toDigits_le_iff (by decide) hw).2 h
  rw [paddedNat, padLeft, List.length_append, List.length_replicate]
  omega

end Daybook.Number
