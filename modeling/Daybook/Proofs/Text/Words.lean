import Mathlib.Data.List.TakeWhile
import Daybook.Text.Words

/-!
Cutting blanks off a text that has none at its ends, and a run of characters off a text that
does not go on with them.
-/

namespace Daybook.Text

variable {cs : List Char}

lemma dropWhile_isBlank (h : ∀ c, cs.head? = some c → isBlank c = false) :
    cs.dropWhile isBlank = cs := by
  cases cs with
  | nil => rfl
  | cons c cs => exact List.dropWhile_cons_of_neg (by simp [h c rfl])

lemma trim_eq_self (hhead : ∀ c, cs.head? = some c → isBlank c = false)
    (hlast : ∀ c, cs.getLast? = some c → isBlank c = false) : trim cs = cs := by
  rw [trim, dropWhile_isBlank hhead, dropWhile_isBlank, List.reverse_reverse]
  intro c hc
  rw [List.head?_reverse] at hc
  exact hlast c hc

lemma trim_of_not_blank (h : ∀ c ∈ cs, isBlank c = false) : trim cs = cs :=
  trim_eq_self (fun c hc => h c (List.mem_of_mem_head? hc))
    (fun c hc => h c (List.mem_of_getLast? hc))

lemma trim_append {s t : List Char} (hs : ∀ c ∈ s, isBlank c = true)
    (ht : ∀ c ∈ t, isBlank c = true) (hcs : ∀ c ∈ cs, isBlank c = false) :
    trim (s ++ (cs ++ t)) = cs := by
  cases cs with
  | nil =>
    have hall : ∀ c ∈ s ++ ([] ++ t), isBlank c = true := List.forall_mem_append.2 ⟨hs, ht⟩
    rw [trim, List.dropWhile_eq_nil_iff.2 hall]
    rfl
  | cons c cs =>
    have hfirst : (s ++ (c :: cs ++ t)).dropWhile isBlank = c :: cs ++ t := by
      rw [List.dropWhile_append_of_pos hs, dropWhile_isBlank]
      intro d hd
      cases hd
      exact hcs c List.mem_cons_self
    have hlast : (c :: cs ++ t).reverse.dropWhile isBlank = (c :: cs).reverse := by
      rw [List.reverse_append, List.dropWhile_append_of_pos fun d hd => ht d (List.mem_reverse.1 hd),
        dropWhile_isBlank]
      exact fun d hd => hcs d (List.mem_reverse.1 (List.mem_of_mem_head? hd))
    rw [trim, hfirst, hlast, List.reverse_reverse]

lemma trim_subset (cs : List Char) : trim cs ⊆ cs := fun _ hc =>
  (List.dropWhile_suffix _).subset
    (List.mem_reverse.1 ((List.dropWhile_suffix _).subset (List.mem_reverse.1 hc)))

lemma exists_trim (cs : List Char) : ∃ before after, cs = before ++ (trim cs ++ after) ∧
    (∀ c ∈ before, isBlank c = true) ∧ ∀ c ∈ after, isBlank c = true := by
  refine ⟨cs.takeWhile isBlank, ((cs.dropWhile isBlank).reverse.takeWhile isBlank).reverse, ?_,
    fun c hc => List.mem_takeWhile_imp hc,
    fun c hc => List.mem_takeWhile_imp (List.mem_reverse.1 hc)⟩
  rw [trim, ← List.reverse_append, List.takeWhile_append_dropWhile, List.reverse_reverse,
    List.takeWhile_append_dropWhile]

lemma takeWhile_stop {p : Char → Bool} {b : Char} {r : List Char} (hcs : ∀ d ∈ cs, p d = true)
    (hb : p b = false) :
    (cs ++ b :: r).takeWhile p = cs ∧ (cs ++ b :: r).dropWhile p = b :: r := by
  constructor
  · rw [List.takeWhile_append_of_pos hcs, List.takeWhile_cons_of_neg (by simp [hb]),
      List.append_nil]
  · rw [List.dropWhile_append_of_pos hcs, List.dropWhile_cons_of_neg (by simp [hb])]

end Daybook.Text
