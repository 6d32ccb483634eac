import Daybook.Proofs.Evaluation.Basic
import Daybook.Proofs.Json.Numbers
import Daybook.Proofs.Json.Strings

/-!
A written value is read back. Reading follows the text from the outside in: a value ends where
its text does, so that what stands around it does not matter.
-/

namespace Daybook.Json

open Text

variable {n depth outer : ℕ} {j x : Json} {xs : List Json} {fs : List (Points × Json)}
variable {cs rest : List Char}

/-- A value that its text holds completely: keys differ, no text has two halves that would be a
pair, whole numbers are not too long to be read, and a double is a number and what its decimal is
read as. -/
inductive Storable : Json → Prop
  | null : Storable .null
  | bool {b : Bool} : Storable (.bool b)
  | int {n : Int} : (natDigits n.natAbs).length ≤ Number.digitLimit → Storable (.int n)
  | float {x : Float} : x.isNaN = false → Number.ofText? (Number.chars x) = some x →
      Storable (.float x)
  | text {s : Points} : apart s = true → Storable (.text s)
  | array {xs : List Json} : (∀ x ∈ xs, Storable x) → Storable (.array xs)
  | object {fs : List (Points × Json)} : (fs.map Prod.fst).Nodup →
      (∀ f ∈ fs, apart f.1 = true) → (∀ f ∈ fs, Storable f.2) → Storable (.object fs)

/-- The value is read back at every depth and in front of everything that may follow it. -/
def ReadsBack (j : Json) : Prop := ∀ ⦃n depth : ℕ⦄ ⦃rest : List Char⦄, Follows rest →
  (indented depth j).length < n → value n (indented depth j ++ rest) = .ok (j, rest)

/-! ### White space -/

lemma skipSpace_newline (depth : ℕ) (cs : List Char) :
    skipSpace (newline depth ++ cs) = skipSpace cs := by
  refine List.dropWhile_append_of_pos fun c hc => ?_
  rcases List.mem_cons.1 hc with rfl | hc
  · rfl
  · rw [(List.mem_replicate.1 hc).2]
    rfl

lemma skipSpace_of_value {r : Json × List Char} (h : value n cs = .ok r) : skipSpace cs = cs := by
  cases n with
  | zero => cases h
  | succ n =>
    cases cs with
    | nil => rfl
    | cons c cs =>
      refine List.dropWhile_cons_of_neg fun hc => ?_
      simp only [isSpace, Bool.or_eq_true, beq_iff_eq] at hc
      rcases hc with ((rfl | rfl) | rfl) | rfl <;> cases h

lemma items_rbracket (n : ℕ) (cs : List Char) : items n (']' :: cs) = .error .malformed := by
  cases n with
  | zero => rfl
  | succ n => cases n <;> rfl

lemma fields_rbrace (n : ℕ) (known : List (Points × Json)) (cs : List Char) :
    fields n known ('\x7d' :: cs) = .error .malformed := by
  cases n <;> rfl

/-! ### Scalars -/

lemma value_of_scalar {r : Json × List Char} (h : scalar cs = .ok r) : value (n + 1) cs = .ok r := by
  rw [value.eq_def]
  dsimp only
  split
  · cases h
  · cases h
  · cases h
  · exact h

lemma readsBack_of_scalar (hj : ∀ depth, indented depth j = scalarChars j)
    (h : ∀ rest, Follows rest → scalar (scalarChars j ++ rest) = .ok (j, rest)) :
    ReadsBack j := by
  intro n depth rest hrest hn
  obtain ⟨m, rfl⟩ : ∃ m, n = m + 1 := ⟨n - 1, by omega⟩
  rw [hj]
  exact value_of_scalar (h rest hrest)

lemma readsBack_text {s : Points} (hs : apart s = true) : ReadsBack (.text s) := by
  intro n depth rest hrest hn
  obtain ⟨m, rfl⟩ : ∃ m, n = m + 1 := ⟨n - 1, by omega⟩
  obtain ⟨cs, hcs, hread⟩ := string_stringChars hs rest
  have hchars : indented depth (.text s) = '"' :: cs := hcs
  rw [hchars, List.cons_append, value, hread]
  rfl

/-! ### Items and fields -/

lemma indentedItems_single (depth : ℕ) (x : Json) :
    indentedItems depth [x] = newline depth ++ indented depth x := by
  simp [indentedItems]

lemma indentedItems_cons (depth : ℕ) (x y : Json) (xs : List Json) :
    indentedItems depth (x :: y :: xs) =
      newline depth ++ (indented depth x ++ ',' :: indentedItems depth (y :: xs)) := by
  simp [indentedItems]

lemma indentedFields_single (depth : ℕ) (k : Points) (x : Json) :
    indentedFields depth [(k, x)] =
      newline depth ++ (stringChars k ++ ':' :: ' ' :: indented depth x) := by
  simp [indentedFields]

lemma indentedFields_cons (depth : ℕ) (k : Points) (x : Json) (f : Points × Json)
    (fs : List (Points × Json)) : indentedFields depth ((k, x) :: f :: fs) =
      newline depth ++ (stringChars k ++ ':' :: ' ' ::
        (indented depth x ++ ',' :: indentedFields depth (f :: fs))) := by
  simp [indentedFields]

lemma length_newline (depth : ℕ) : 0 < (newline depth).length := by
  simp [newline]

lemma items_newline {tail : List Char} (hx : value n cs = .ok (x, tail)) :
    items (n + 1) (skipSpace (newline depth ++ cs)) = match skipSpace tail with
      | ']' :: rest => .ok ([x], rest)
      | ',' :: rest => items n (skipSpace rest) >>= fun (xs, rest) => .ok (x :: xs, rest)
      | _ => .error .malformed := by
  rw [skipSpace_newline, skipSpace_of_value hx, items, hx, ok_bind]
  rfl

lemma skipSpace_comma (cs : List Char) : skipSpace (',' :: cs) = ',' :: cs := rfl

lemma items_indented (hxs : xs ≠ []) (h : ∀ x ∈ xs, ReadsBack x)
    (hn : (indentedItems depth xs).length < n) :
    items n (skipSpace (indentedItems depth xs ++ (newline outer ++ ']' :: rest))) =
      .ok (xs, rest) := by
  induction xs generalizing n with
  | nil => exact absurd rfl hxs
  | cons x xs ih =>
    obtain ⟨hx, hall⟩ := List.forall_mem_cons.1 h
    obtain ⟨m, rfl⟩ : ∃ m, n = m + 1 := ⟨n - 1, by omega⟩
    have hnewline := length_newline depth
    -- a comma stands behind every item but the last
    cases xs with
    | nil =>
      rw [indentedItems_single] at hn ⊢
      rw [List.length_append] at hn
      have hvalue := hx (follows_newline outer (']' :: rest))
        (show (indented depth x).length < m by omega)
      rw [List.append_assoc, items_newline hvalue, skipSpace_newline]
      rfl
    | cons y ys =>
      rw [indentedItems_cons] at hn ⊢
      simp only [List.length_append, List.length_cons] at hn
      have hvalue := hx (follows_comma (indentedItems depth (y :: ys) ++
        (newline outer ++ ']' :: rest))) (show (indented depth x).length < m by omega)
      have hrest := ih (n := m) (by nofun) hall (by omega)
      rw [List.append_assoc, List.append_assoc, List.cons_append, items_newline hvalue]
      simp only [skipSpace_comma, hrest, ok_bind]

lemma put_of_not_mem {k : Points} (h : k ∉ fs.map Prod.fst) : put k x fs = fs ++ [(k, x)] := by
  induction fs with
  | nil => rfl
  | cons f fs ih =>
    rw [List.map_cons, List.mem_cons, not_or] at h
    rw [put, if_neg (Ne.symm h.1), ih h.2, List.cons_append]

lemma fields_newline {tail : List Char} {k : Points} (known : List (Points × Json))
    (hk : apart k = true) (hx : value n cs = .ok (x, tail)) :
    fields (n + 1) known (skipSpace (newline depth ++ (stringChars k ++ ':' :: ' ' :: cs))) =
      match skipSpace tail with
      | '\x7d' :: rest => .ok (put k x known, rest)
      | ',' :: rest => fields n (put k x known) (skipSpace rest)
      | _ => .error .malformed := by
  obtain ⟨ds, hds, hread⟩ := string_stringChars hk (':' :: ' ' :: cs)
  have hquote : skipSpace ('"' :: (ds ++ ':' :: ' ' :: cs)) = '"' :: (ds ++ ':' :: ' ' :: cs) := rfl
  have hcolon : skipSpace (':' :: ' ' :: cs) = ':' :: ' ' :: cs := rfl
  have hblank : skipSpace (' ' :: cs) = skipSpace cs := rfl
  rw [skipSpace_newline, hds, List.cons_append, hquote, fields, hread, ok_bind]
  simp only [hcolon, hblank, skipSpace_of_value hx, hx, ok_bind]
  rfl

lemma fields_indented (known : List (Points × Json)) (hfs : fs ≠ [])
    (hkeys : ((known ++ fs).map Prod.fst).Nodup) (hapart : ∀ f ∈ fs, apart f.1 = true)
    (h : ∀ f ∈ fs, ReadsBack f.2) (hn : (indentedFields depth fs).length < n) :
    fields n known (skipSpace (indentedFields depth fs ++ (newline outer ++ '\x7d' :: rest))) =
      .ok (known ++ fs, rest) := by
  -- the known fields grow, so each key has to differ from all before it
  induction fs generalizing n known with
  | nil => exact absurd rfl hfs
  | cons f fs ih =>
    obtain ⟨k, x⟩ := f
    obtain ⟨hx, hall⟩ := List.forall_mem_cons.1 h
    obtain ⟨hk, hapart'⟩ := List.forall_mem_cons.1 hapart
    obtain ⟨m, rfl⟩ : ∃ m, n = m + 1 := ⟨n - 1, by omega⟩
    have hnewline := length_newline depth
    have hput : put k x known = known ++ [(k, x)] := by
      refine put_of_not_mem fun hk => ?_
      rw [List.map_append, List.nodup_append] at hkeys
      exact hkeys.2.2 k hk k (by simp) rfl
    cases fs with
    | nil =>
      rw [indentedFields_single] at hn ⊢
      simp only [List.length_append, List.length_cons] at hn
      have hvalue := hx (follows_newline outer ('\x7d' :: rest))
        (show (indented depth x).length < m by omega)
      rw [List.append_assoc, List.append_assoc, List.cons_append, List.cons_append,
        fields_newline known hk hvalue, skipSpace_newline, hput]
      rfl
    | cons g gs =>
      rw [indentedFields_cons] at hn ⊢
      simp only [List.length_append, List.length_cons] at hn
      have hvalue := hx (follows_comma (indentedFields depth (g :: gs) ++
        (newline outer ++ '\x7d' :: rest))) (show (indented depth x).length < m by omega)
      have hkeys' : ((known ++ [(k, x)] ++ g :: gs).map Prod.fst).Nodup := by
        rwa [List.append_assoc, List.singleton_append]
      have hrest := ih (n := m) _ (by nofun) hkeys' hapart' hall (by omega)
      simp only [List.append_assoc, List.cons_append]
      rw [fields_newline known hk hvalue, hput]
      simp only [skipSpace_comma, hrest, List.append_assoc, List.singleton_append]

/-! ### Values -/

lemma value_array (h : items n (skipSpace cs) = .ok (xs, rest)) :
    value (n + 1) ('[' :: cs) = .ok (.array xs, rest) := by
  rw [value]
  split
  · rename_i hcs
    rw [hcs, items_rbracket] at h
    cases h
  · rw [h]
    rfl

lemma value_object (h : fields n [] (skipSpace cs) = .ok (fs, rest)) :
    value (n + 1) ('\x7b' :: cs) = .ok (.object fs, rest) := by
  rw [value]
  split
  · rename_i hcs
    rw [hcs, fields_rbrace] at h
    cases h
  · rw [h]
    rfl

lemma readsBack_array (h : ∀ x ∈ xs, ReadsBack x) : ReadsBack (.array xs) := by
  intro n depth rest hrest hn
  obtain ⟨m, rfl⟩ : ∃ m, n = m + 1 := ⟨n - 1, by omega⟩
  cases xs with
  | nil => rfl
  | cons x xs =>
    have hchars : indented depth (.array (x :: xs)) =
        '[' :: (indentedItems (depth + 1) (x :: xs) ++ newline depth ++ [']']) := rfl
    rw [hchars] at hn ⊢
    simp only [List.length_append, List.length_cons] at hn
    rw [List.cons_append, List.append_assoc, List.append_assoc]
    exact value_array (items_indented (by nofun) h (by omega))

lemma readsBack_object (hkeys : (fs.map Prod.fst).Nodup) (hapart : ∀ f ∈ fs, apart f.1 = true)
    (h : ∀ f ∈ fs, ReadsBack f.2) : ReadsBack (.object fs) := by
  intro n depth rest hrest hn
  obtain ⟨m, rfl⟩ : ∃ m, n = m + 1 := ⟨n - 1, by omega⟩
  cases fs with
  | nil => rfl
  | cons f fs =>
    have hchars : indented depth (.object (f :: fs)) =
        '\x7b' :: (indentedFields (depth + 1) (f :: fs) ++ newline depth ++ ['\x7d']) := rfl
    rw [hchars] at hn ⊢
    simp only [List.length_append, List.length_cons] at hn
    rw [List.cons_append, List.append_assoc, List.append_assoc]
    exact value_object (fields_indented [] (by nofun) hkeys hapart h (by omega))

lemma Storable.readsBack (hj : j.Storable) : ReadsBack j := by
  induction hj with
  | null => exact readsBack_of_scalar (fun _ => rfl) fun rest _ => rfl
  | @bool b => cases b <;> exact readsBack_of_scalar (fun _ => rfl) fun rest _ => rfl
  | int hn => exact readsBack_of_scalar (fun _ => rfl) fun rest => scalar_int hn
  | float hnan hx => exact readsBack_of_scalar (fun _ => rfl) fun rest => scalar_float hnan hx
  | text hs => exact readsBack_text hs
  | array _ ih => exact readsBack_array ih
  | object hkeys hapart _ ih => exact readsBack_object hkeys hapart ih

/-- **What has been written is read back**, with the fields in the order in which they stand. -/
theorem read_indented (hj : j.Storable) : read (indented 0 j) = .ok j := by
  have hvalue : value ((indented 0 j).length + 1) (indented 0 j ++ []) = .ok (j, []) :=
    hj.readsBack follows_nil (Nat.lt_succ_self _)
  rw [List.append_nil] at hvalue
  rw [read, skipSpace_of_value hvalue, hvalue]
  rfl

end Daybook.Json
