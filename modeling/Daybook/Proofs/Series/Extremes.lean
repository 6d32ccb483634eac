import Mathlib.Data.List.Basic
import Daybook.Proofs.Number.Order
import Daybook.Series.Basic

/-!
The least and the greatest of some values, found by going through them once. Nothing is less or
greater than a NaN: one that comes first is never given up, and any other is passed over. Apart
from that it does not matter where in the list a value stands.
-/

namespace Daybook

variable {le : Float → Float → Prop} {pick : Option Float → Float → Option Float} {x y m : Float}
  {xs ys : List Float} {a b : Option Float}

/-- What is known as the extreme of some numbers: one of them, to which all stand in the
relation, or nothing if there are none. -/
def Extreme (le : Float → Float → Prop) (xs : List Float) (known : Option Float) : Prop :=
  (known = none ∧ xs = []) ∨ ∃ m, known = some m ∧ m ∈ xs ∧ ∀ x ∈ xs, le m x

lemma Extreme.none_iff (h : Extreme le xs a) : a = none ↔ xs = [] := by
  rcases h with ⟨rfl, rfl⟩ | ⟨m, rfl, hm, -⟩
  · simp
  · simp [List.ne_nil_of_mem hm]

lemma Extreme.mem (h : Extreme le xs (some m)) : m ∈ xs := by
  rcases h with ⟨h, -⟩ | ⟨_, h, hm, -⟩ <;> cases h
  exact hm

lemma Extreme.forall_mem (h : Extreme le xs (some m)) : ∀ x ∈ xs, le m x := by
  rcases h with ⟨h, -⟩ | ⟨_, h, -, hle⟩ <;> cases h
  exact hle

/-- Both are missing, or both are there and the same or numerically equal. -/
def Same (a b : Option Float) : Prop := a = b ∨ ∃ x y, a = some x ∧ b = some y ∧ (x == y) = true

def numbers (xs : List Float) : List Float := xs.filter fun x => !x.isNaN

lemma mem_numbers : x ∈ numbers xs ↔ x ∈ xs ∧ x.isNaN = false := by
  simp [numbers]

lemma mem_numbers_insert (hx : x.isNaN = false) (y : Float) :
    y ∈ numbers (xs ++ x :: ys) ↔ y = x ∨ y ∈ numbers (xs ++ ys) := by
  simp only [mem_numbers, List.mem_append, List.mem_cons]
  constructor
  · rintro ⟨h | rfl | h, hy⟩
    · exact .inr ⟨.inl h, hy⟩
    · exact .inl rfl
    · exact .inr ⟨.inr h, hy⟩
  · rintro (rfl | ⟨h | h, hy⟩)
    · exact ⟨.inr (.inl rfl), hx⟩
    · exact ⟨.inl h, hy⟩
    · exact ⟨.inr (.inr h), hy⟩

/-! ### Choosing between two values -/

/-- A way to choose between what is known and one value more: the first value is taken, of two
numbers the better one, and a NaN neither replaces anything nor is replaced. -/
structure Picks (le : Float → Float → Prop) (pick : Option Float → Float → Option Float) :
    Prop where
  refl : ∀ {x}, x.isNaN = false → le x x
  trans : ∀ {a b c}, le a b → le b c → le a c
  antisymm : ∀ {a b}, le a b → le b a → (a == b) = true
  first : ∀ x, pick none x = some x
  better : ∀ {m x}, m.isNaN = false → x.isNaN = false →
    pick (some m) x = some x ∧ le x m ∨ pick (some m) x = some m ∧ le m x
  kept : ∀ {m x}, m.isNaN = true ∨ x.isNaN = true → pick (some m) x = some m

lemma not_lt_of_isNaN (h : x.isNaN = true ∨ y.isNaN = true) : ¬ x < y := by
  intro hlt
  obtain ⟨hx, hy⟩ := Number.numbers_of_le (Number.le_of_lt hlt)
  rw [hx, hy] at h
  simp at h

lemma picks_lesser : Picks (· ≤ ·) Stats.lesser where
  refl := Number.le_refl
  trans := Number.le_trans
  antisymm := Number.beq_of_le_of_le
  first _ := rfl
  better {m x} hm hx := by
    by_cases h : x < m
    · exact .inl ⟨if_pos h, Number.le_of_lt h⟩
    · exact .inr ⟨if_neg h, Number.le_of_not_lt hx hm h⟩
  kept h := if_neg (not_lt_of_isNaN h.symm)

lemma picks_greater : Picks (fun m x => x ≤ m) Stats.greater where
  refl := Number.le_refl
  trans hab hbc := Number.le_trans hbc hab
  antisymm hab hba := Number.beq_of_le_of_le hba hab
  first _ := rfl
  better {m x} hm hx := by
    by_cases h : m < x
    · exact .inl ⟨if_pos h, Number.le_of_lt h⟩
    · exact .inr ⟨if_neg h, Number.le_of_not_lt hm hx h⟩
  kept h := if_neg (not_lt_of_isNaN h)

namespace Picks

variable (hp : Picks le pick)

include hp

lemma same_of_extreme (ha : Extreme le xs a) (hb : Extreme le xs b) : Same a b := by
  rcases ha with ⟨rfl, rfl⟩ | ⟨m, rfl, hm, hle⟩
  · exact .inl (hb.none_iff.2 rfl).symm
  · rcases hb with ⟨-, rfl⟩ | ⟨n, rfl, hn, hle'⟩
    · cases hm
    · exact .inr ⟨m, n, rfl, rfl, hp.antisymm (hle n hn) (hle' m hm)⟩

lemma insert (h : Extreme le xs a) (hn : ∀ y ∈ ys, y.isNaN = false)
    (hys : ∀ y, y ∈ ys ↔ y = x ∨ y ∈ xs) : Extreme le ys (pick a x) := by
  have hmem : x ∈ ys := (hys x).2 (.inl rfl)
  have hx : le x x := hp.refl (hn x hmem)
  rcases h with ⟨rfl, rfl⟩ | ⟨m, rfl, hm, hle⟩
  · refine .inr ⟨x, hp.first x, hmem, fun y hy => ?_⟩
    rcases (hys y).1 hy with rfl | hy
    · exact hx
    · cases hy
  · have hm' : m ∈ ys := (hys m).2 (.inr hm)
    rcases hp.better (hn m hm') (hn x hmem) with ⟨hpick, hxm⟩ | ⟨hpick, hmx⟩
    · refine .inr ⟨x, hpick, hmem, fun y hy => ?_⟩
      rcases (hys y).1 hy with rfl | hy
      · exact hx
      · exact hp.trans hxm (hle y hy)
    · refine .inr ⟨m, hpick, hm', fun y hy => ?_⟩
      rcases (hys y).1 hy with rfl | hy
      · exact hmx
      · exact hle y hy

lemma insert_numbers (h : Extreme le (numbers (xs ++ ys)) a) (hx : x.isNaN = false) :
    Extreme le (numbers (xs ++ x :: ys)) (pick a x) :=
  hp.insert h (fun _ hy => (mem_numbers.1 hy).2) (mem_numbers_insert hx)

/-! ### Going through all values -/

lemma exists_pick (h : Extreme le (numbers xs) (some m)) (x : Float) :
    ∃ n, pick (some m) x = some n ∧ Extreme le (numbers (xs ++ [x])) (some n) := by
  rcases hx : x.isNaN with _ | _
  · have hnew : Extreme le (numbers (xs ++ [x])) (pick (some m) x) :=
      hp.insert_numbers (by rwa [List.append_nil]) hx
    have hmem : x ∈ numbers (xs ++ [x]) := (mem_numbers_insert hx x).2 (.inl rfl)
    obtain ⟨n, hn⟩ := Option.ne_none_iff_exists'.1 fun hnone =>
      List.ne_nil_of_mem hmem (hnew.none_iff.1 hnone)
    exact ⟨n, hn, hn ▸ hnew⟩
  · have hxs : numbers (xs ++ [x]) = numbers xs := by
      rw [numbers, List.filter_append, List.filter_cons_of_neg (by rw [hx]; decide),
        List.filter_nil, List.append_nil, numbers]
    exact ⟨m, hp.kept (.inr hx), by rwa [hxs]⟩

lemma extreme_foldl_some (h : Extreme le (numbers xs) (some m)) (ys : List Float) :
    Extreme le (numbers (xs ++ ys)) (ys.foldl pick (some m)) := by
  induction ys generalizing xs m with
  | nil => simpa using h
  | cons y ys ih =>
    obtain ⟨n, hn, hext⟩ := hp.exists_pick h y
    rw [List.foldl_cons, hn, List.append_cons]
    exact ih hext

lemma extreme_foldl (h : ∀ m, xs.head? = some m → m.isNaN = false) :
    Extreme le (numbers xs) (xs.foldl pick none) := by
  rcases xs with _ | ⟨m, xs⟩
  · exact .inl ⟨rfl, rfl⟩
  · have hnone : Extreme le (numbers ([] ++ [])) none := .inl ⟨rfl, rfl⟩
    have hone : Extreme le (numbers [m]) (pick none m) := hp.insert_numbers hnone (h m rfl)
    rw [hp.first] at hone
    rw [List.foldl_cons, hp.first]
    exact hp.extreme_foldl_some hone xs

lemma extreme_foldl_of_numbers (h : ∀ x ∈ xs, x.isNaN = false) :
    Extreme le xs (xs.foldl pick none) := by
  have hxs : numbers xs = xs := List.filter_eq_self.2 fun x hx => by rw [h x hx]; rfl
  have hext := hp.extreme_foldl fun m hm => h m (List.mem_of_head? hm)
  rwa [hxs] at hext

lemma foldl_of_isNaN (hm : m.isNaN = true) (xs : List Float) :
    (m :: xs).foldl pick none = some m := by
  rw [List.foldl_cons, hp.first]
  induction xs with
  | nil => rfl
  | cons x xs ih => rw [List.foldl_cons, hp.kept (.inl hm), ih]

/-! ### One value that comes late -/

lemma same_foldl (hx : x.isNaN = false) (h : ∀ m, (xs ++ ys).head? = some m → m.isNaN = false) :
    Same (pick ((xs ++ ys).foldl pick none) x) ((xs ++ x :: ys).foldl pick none) := by
  refine hp.same_of_extreme (hp.insert_numbers (hp.extreme_foldl h) hx) (hp.extreme_foldl ?_)
  rcases xs with _ | ⟨m, xs⟩
  · intro m hm
    cases hm
    exact hx
  · exact h

lemma not_same_foldl (hx : x.isNaN = false) (hm : m.isNaN = true) :
    ¬ Same (pick ((m :: xs).foldl pick none) x) ((x :: m :: xs).foldl pick none) := by
  have hnew : Extreme le (numbers (x :: m :: xs)) ((x :: m :: xs).foldl pick none) := by
    refine hp.extreme_foldl fun n hn => ?_
    cases hn
    exact hx
  rw [hp.foldl_of_isNaN hm, hp.kept (.inl hm)]
  rintro (h | ⟨_, n, h, -, heq⟩)
  · rw [← h] at hnew
    rw [(mem_numbers.1 hnew.mem).2] at hm
    cases hm
  · cases h
    rw [(Number.numbers_of_beq heq).1] at hm
    cases hm

/-- **A value that is met at last, or in its place.** It makes no difference, unless the value
belongs in front of all others and a NaN has been the first of these. -/
lemma same_foldl_iff (hx : x.isNaN = false) (xs ys : List Float) :
    Same (pick ((xs ++ ys).foldl pick none) x) ((xs ++ x :: ys).foldl pick none) ↔
      (xs = [] → ∀ m, ys.head? = some m → m.isNaN = false) := by
  constructor
  · rintro h rfl m hm
    obtain ⟨zs, rfl⟩ := List.head?_eq_some_iff.1 hm
    by_contra hnan
    exact hp.not_same_foldl hx (Bool.ne_false_iff.1 hnan) h
  · intro h
    rcases xs with _ | ⟨m, xs⟩
    · exact hp.same_foldl hx (h rfl)
    rcases hm : m.isNaN with _ | _
    · refine hp.same_foldl hx fun n hn => ?_
      cases hn
      exact hm
    · rw [List.cons_append, List.cons_append, hp.foldl_of_isNaN hm, hp.foldl_of_isNaN hm,
        hp.kept (.inl hm)]
      exact .inl rfl

end Picks

end Daybook
