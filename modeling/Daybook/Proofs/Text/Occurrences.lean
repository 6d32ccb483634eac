import Mathlib.Data.List.Basic
import Daybook.Text.Words

/-!
Replacing and counting occurrences piece by piece: a piece in which no occurrence begins is kept
as it is, and an occurrence is taken as a whole.
-/

namespace Daybook.Text

variable {old new cs s t : List Char} {a b c : Char}

lemma after?_isSome_iff : (after? old cs).isSome = true ↔ old <+: cs := by
  rw [Option.isSome_iff_exists]
  exact exists_congr fun rest => after?_eq_some_iff.trans eq_comm

lemma replaceFrom_eq (n : ℕ) : replaceFrom old new n cs = replaceAll old new (cs.drop n) := by
  induction cs generalizing n with
  | nil => cases n <;> rfl
  | cons c cs ih =>
    cases n with
    | zero => rfl
    | succ n => exact ih n

lemma replaceAll_cons (h : ¬ old <+: c :: cs) :
    replaceAll old new (c :: cs) = c :: replaceAll old new cs := by
  rw [replaceAll, replaceFrom, if_neg (fun ho => h (after?_isSome_iff.1 ho))]
  rfl

lemma replaceAll_append_old (ho : old ≠ []) :
    replaceAll old new (old ++ t) = new ++ replaceAll old new t := by
  obtain ⟨c, cs, rfl⟩ := List.exists_cons_of_ne_nil ho
  have hprefix : c :: cs <+: c :: (cs ++ t) := ⟨t, rfl⟩
  rw [List.cons_append, replaceAll, replaceFrom, if_pos (after?_isSome_iff.2 hprefix),
    replaceFrom_eq, List.length_cons, Nat.add_sub_cancel, List.drop_left]

lemma replaceAll_append (h : ∀ b, b <:+ s → b ≠ [] → ¬ old <+: b ++ t) :
    replaceAll old new (s ++ t) = s ++ replaceAll old new t := by
  induction s with
  | nil => rfl
  | cons c s ih =>
    have hhere : ¬ old <+: c :: (s ++ t) := h (c :: s) List.suffix_rfl (List.cons_ne_nil c s)
    rw [List.cons_append, replaceAll_cons hhere,
      ih fun b hb => h b (hb.trans (List.suffix_cons c s)), List.cons_append]

/-! ### Counting pairs -/

lemma countPair_cons_bounds (c : Char) (cs : List Char) :
    countPair a b cs ≤ countPair a b (c :: cs) ∧ countPair a b (c :: cs) ≤ countPair a b cs + 1 := by
  induction cs generalizing c with
  | nil => simp [countPair]
  | cons d ds ih =>
    have hd := ih d
    rw [countPair]
    split <;> omega

lemma countPair_cons (h : c ≠ a) : countPair a b (c :: cs) = countPair a b cs := by
  cases cs with
  | nil => rfl
  | cons d cs => rw [countPair, if_neg fun hc => h hc.1]

lemma countPair_append (h : a ∉ s) : countPair a b (s ++ t) = countPair a b t := by
  induction s with
  | nil => rfl
  | cons c s ih =>
    rw [List.mem_cons, not_or] at h
    rw [List.cons_append, countPair_cons (Ne.symm h.1), ih h.2]

lemma countPair_pair : countPair a b (a :: b :: cs) = countPair a b cs + 1 := by
  rw [countPair, if_pos ⟨rfl, rfl⟩]

end Daybook.Text
