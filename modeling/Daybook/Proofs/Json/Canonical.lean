import Mathlib.Data.List.Forall2
import Mathlib.Data.List.Nodup
import Daybook.Json.Stored
import Daybook.Proofs.Json.RoundTrip
import Daybook.Proofs.Number.Order

/-!
The text of a stored value says which value it is and nothing more. The order in which fields
stand is lost, since they are written in the order of their keys, and everything else is read back.
-/

namespace Daybook.Json

open Text

variable {j k x y : Json} {xs ys : List Json} {fs gs : List (Points × Json)}

/-- Values with the same fields in another order, at any depth. -/
inductive Reordered : Json → Json → Prop
  | refl {j : Json} : Reordered j j
  | trans {j k l : Json} : Reordered j k → Reordered k l → Reordered j l
  | fields {fs gs : List (Points × Json)} : fs.Perm gs → Reordered (.object fs) (.object gs)
  | item {xs ys : List Json} {x y : Json} : Reordered x y →
      Reordered (.array (xs ++ x :: ys)) (.array (xs ++ y :: ys))
  | field {fs gs : List (Points × Json)} {key : Points} {x y : Json} : Reordered x y →
      Reordered (.object (fs ++ (key, x) :: gs)) (.object (fs ++ (key, y) :: gs))

namespace Reordered

lemma symm (h : Reordered j k) : Reordered k j := by
  induction h with
  | refl => exact .refl
  | trans _ _ ih ih' => exact ih'.trans ih
  | fields hperm => exact .fields hperm.symm
  | item _ ih => exact .item ih
  | field _ ih => exact .field ih

lemma items (h : List.Forall₂ Reordered xs ys) (before : List Json) :
    Reordered (.array (before ++ xs)) (.array (before ++ ys)) := by
  induction h generalizing before with
  | nil => exact .refl
  | @cons x y xs ys hx _ ih =>
    have hrest := ih (before ++ [y])
    rw [List.append_assoc, List.append_assoc] at hrest
    exact (item hx).trans hrest

lemma values (h : List.Forall₂ (fun f g => f.1 = g.1 ∧ Reordered f.2 g.2) fs gs)
    (before : List (Points × Json)) :
    Reordered (.object (before ++ fs)) (.object (before ++ gs)) := by
  induction h generalizing before with
  | nil => exact .refl
  | @cons f g fs gs hf _ ih =>
    obtain ⟨key, x⟩ := f
    obtain ⟨key', y⟩ := g
    obtain ⟨rfl, hx⟩ := hf
    have hrest := ih (before ++ [(key, y)])
    rw [List.append_assoc, List.append_assoc] at hrest
    exact (field hx).trans hrest

end Reordered

/-! ### Sorting -/

lemma sortedItems_eq (xs : List Json) : sortedItems xs = xs.map sorted := by
  induction xs with
  | nil => rfl
  | cons x xs ih => rw [sortedItems, ih, List.map_cons]

lemma sortedFields_eq (fs : List (Points × Json)) :
    sortedFields fs = fs.map fun f => (f.1, sorted f.2) := by
  induction fs with
  | nil => rfl
  | cons f fs ih => rw [sortedFields, ih, List.map_cons]

lemma sorted_array (xs : List Json) : sorted (.array xs) = .array (xs.map sorted) := by
  rw [sorted, sortedItems_eq]

lemma sorted_object (fs : List (Points × Json)) : sorted (.object fs) =
    .object ((fs.map fun f => (f.1, sorted f.2)).mergeSort fun a b => a.1.le b.1) := by
  rw [sorted, sortedFields_eq]

lemma fst_mapped (fs : List (Points × Json)) :
    (fs.map fun f => (f.1, sorted f.2)).map Prod.fst = fs.map Prod.fst := by
  rw [List.map_map]
  rfl

lemma pairwise_keys (fs : List (Points × Json)) :
    (fs.mergeSort fun a b => a.1.le b.1).Pairwise fun a b => a.1.le b.1 = true := by
  have htrans : ∀ a b c : Points × Json, a.1.le b.1 = true → b.1.le c.1 = true →
      a.1.le c.1 = true := fun _ _ _ => Points.le_trans
  have htotal : ∀ a b : Points × Json, (a.1.le b.1 || b.1.le a.1) = true := by
    intro a b
    rw [Bool.or_eq_true]
    exact Points.le_total a.1 b.1
  exact List.pairwise_mergeSort htrans htotal fs

lemma mergeSort_eq_of_perm (hkeys : (fs.map Prod.fst).Nodup) (h : fs.Perm gs) :
    (fs.mergeSort fun a b => a.1.le b.1) = gs.mergeSort fun a b => a.1.le b.1 := by
  have hfs := List.mergeSort_perm fs fun a b => a.1.le b.1
  have hgs := List.mergeSort_perm gs fun a b => a.1.le b.1
  refine (hfs.trans (h.trans hgs.symm)).eq_of_pairwise ?_ (pairwise_keys fs) (pairwise_keys gs)
  intro f g hf hg hfg hgf
  have hmem : g ∈ fs := h.mem_iff.2 (hgs.mem_iff.1 hg)
  exact List.inj_on_of_nodup_map hkeys (hfs.mem_iff.1 hf) hmem (Points.le_antisymm hfg hgf)

lemma Storable.reordered_sorted (hj : j.Storable) : Reordered j j.sorted := by
  induction hj with
  | null | bool | int | float | text => exact .refl
  | @array xs _ ih =>
    rw [sorted_array]
    exact Reordered.items (List.forall₂_map_right_iff.2 (List.forall₂_same.2 ih)) []
  | @object fs _ _ _ ih =>
    rw [sorted_object]
    have hvalues : List.Forall₂ (fun f g => f.1 = g.1 ∧ Reordered f.2 g.2) fs
        (fs.map fun f => (f.1, sorted f.2)) :=
      List.forall₂_map_right_iff.2 (List.forall₂_same.2 fun f hf => ⟨rfl, ih f hf⟩)
    exact (Reordered.values hvalues []).trans (.fields (List.mergeSort_perm _ _).symm)

/-! ### Reordered values -/

lemma Reordered.storable (h : Reordered j k) (hj : j.Storable) : k.Storable := by
  induction h with
  | refl => exact hj
  | trans _ _ ih ih' => exact ih' (ih hj)
  | fields hperm =>
    cases hj with
    | object hkeys hapart hall =>
      exact .object ((hperm.map Prod.fst).nodup_iff.1 hkeys)
        (fun f hf => hapart f (hperm.mem_iff.2 hf)) fun f hf => hall f (hperm.mem_iff.2 hf)
  | item _ ih =>
    cases hj with
    | array hall =>
      rw [List.forall_mem_append, List.forall_mem_cons] at hall
      refine .array ?_
      rw [List.forall_mem_append, List.forall_mem_cons]
      exact ⟨hall.1, ih hall.2.1, hall.2.2⟩
  | field _ ih =>
    cases hj with
    | object hkeys hapart hall =>
      -- the keys stay as they are, only the value at one of them changes
      rw [List.forall_mem_append, List.forall_mem_cons] at hapart hall
      refine .object ?_ ?_ ?_
      · rw [List.map_append, List.map_cons] at hkeys ⊢
        exact hkeys
      · rw [List.forall_mem_append, List.forall_mem_cons]
        exact hapart
      · rw [List.forall_mem_append, List.forall_mem_cons]
        exact ⟨hall.1, ih hall.2.1, hall.2.2⟩

lemma Reordered.sorted_eq (h : Reordered j k) (hj : j.Storable) : j.sorted = k.sorted := by
  induction h with
  | refl => rfl
  | trans h _ ih ih' => exact (ih hj).trans (ih' (h.storable hj))
  | @fields fs gs hperm =>
    cases hj with
    | object hkeys _ _ =>
      rw [sorted_object, sorted_object]
      -- distinct keys have one sorted order
      exact congrArg Json.object
        (mergeSort_eq_of_perm (by rwa [fst_mapped]) (hperm.map _))
  | item _ ih =>
    cases hj with
    | array hall =>
      have hx := ih (hall _ (List.mem_append_right _ List.mem_cons_self))
      rw [sorted_array, sorted_array, List.map_append, List.map_append, List.map_cons,
        List.map_cons, hx]
  | field _ ih =>
    cases hj with
    | object _ _ hall =>
      have hx := ih (hall (_, _) (List.mem_append_right _ List.mem_cons_self))
      rw [sorted_object, sorted_object, List.map_append, List.map_append, List.map_cons,
        List.map_cons, hx]

/-! ### Equality -/

lemma sameItems_self (h : ∀ x ∈ xs, x.same x = true) : sameItems xs xs = true := by
  induction xs with
  | nil => rfl
  | cons x xs ih =>
    obtain ⟨hx, hall⟩ := List.forall_mem_cons.1 h
    rw [sameItems, hx, ih hall]
    rfl

lemma sameFields_self (h : ∀ f ∈ fs, f.2.same f.2 = true) : sameFields fs fs = true := by
  induction fs with
  | nil => rfl
  | cons f fs ih =>
    obtain ⟨hf, hall⟩ := List.forall_mem_cons.1 h
    rw [sameFields, hf, ih hall, beq_self_eq_true]
    rfl

lemma Storable.same_self (hj : j.Storable) : j.same j = true := by
  induction hj with
  | null => rfl
  | bool | int | text => exact beq_self_eq_true _
  | float hnan => exact Number.beq_self hnan
  | array _ ih => exact sameItems_self ih
  | object _ _ _ ih => exact sameFields_self ih

/-! ### Storing -/

lemma store_eq_ok {path : String} (hp : pathParts path ≠ []) (j : Json) :
    store path j =
      .ok { files := ((placeOf (pathParts path)).map joinParts).toList, text := j.canonical } := by
  rw [store]
  split
  · exact absurd ‹_› hp
  · rfl

lemma read_canonical (hj : j.Storable) : read j.canonical = .ok j.sorted :=
  read_indented (hj.reordered_sorted.storable hj)

lemma canonical_eq_iff (hj : j.Storable) (hk : k.Storable) :
    k.canonical = j.canonical ↔ Reordered j k := by
  constructor
  · intro h
    have hread := read_canonical hk
    rw [h, read_canonical hj] at hread
    have hsorted : Reordered j k.sorted := by
      rw [← Except.ok.inj hread]
      exact hj.reordered_sorted
    exact hsorted.trans hk.reordered_sorted.symm
  · intro h
    rw [canonical, canonical, h.sorted_eq hj]

/-- **What is stored is read back, and only what it is decides how it is stored.** A value whose
numbers can be read back, and whose texts have no halves that would be a pair, is stored wherever
the file has a name; reading the file gives an equal value, and the file of another such value is
the same exactly if the two differ at most in the order of fields, at any depth. -/
theorem read_stored {path : String} (hj : j.Storable) (hp : pathParts path ≠ []) :
    ∃ stored, store path j = .ok stored ∧
      (∃ k, read stored.text = .ok k ∧ Reordered j k ∧ k.same j.sorted = true) ∧
      ∀ k, k.Storable → (store path k = .ok stored ↔ Reordered j k) := by
  refine ⟨_, store_eq_ok hp j,
    ⟨j.sorted, read_canonical hj, hj.reordered_sorted, ?_⟩, fun k hk => ?_⟩
  · exact (hj.reordered_sorted.storable hj).same_self
  · rw [store_eq_ok hp k, ← canonical_eq_iff hj hk]
    simp

/-- A value of every kind: characters that are written in different ways, halves that stand
alone, fields out of order. -/
def diary : Json := .object [
  ("weights", .array [.int (-12), .float 0.5, .null, .object []]),
  ("note \"a\"", .text "né\t\n😀"),
  ("halves", .text [.low 0, .char 'x', .high 0x3d]),
  ("days", .object [("last", .bool true), ("first", .array [])])]

theorem read_stored_diary :
    diary.Storable ∧ pathParts "nested/diary.json" ≠ [] ∧
      ∃ stored, store "nested/diary.json" diary = .ok stored ∧
        (∃ k, read stored.text = .ok k ∧ Reordered diary k ∧ k.same diary.sorted = true) ∧
        ∀ k, k.Storable → (store "nested/diary.json" k = .ok stored ↔ Reordered diary k) := by
  have hweights : ∀ x ∈ [int (-12), float 0.5, null, object []], Storable x := by
    simp only [List.forall_mem_cons, List.not_mem_nil]
    exact ⟨.int (by decide +kernel), .float (by decide +kernel) (by decide +kernel), .null,
      .object List.nodup_nil nofun nofun, nofun⟩
  have hdays : Storable (.object [("last", bool true), ("first", array [])]) := by
    refine .object (by decide) ?_ ?_ <;> simp only [List.forall_mem_cons, List.not_mem_nil]
    · exact ⟨apart_ofChars _, apart_ofChars _, nofun⟩
    · exact ⟨.bool, .array nofun, nofun⟩
  have hdiary : diary.Storable := by
    refine .object (by decide) ?_ ?_ <;> simp only [List.forall_mem_cons, List.not_mem_nil]
    · exact ⟨apart_ofChars _, apart_ofChars _, apart_ofChars _, apart_ofChars _, nofun⟩
    · exact ⟨.array hweights, .text (apart_ofChars _), .text rfl, hdays, nofun⟩
  have hpath : pathParts "nested/diary.json" ≠ [] := by decide +kernel
  exact ⟨hdiary, hpath, read_stored hdiary hpath⟩

end Daybook.Json
