import Mathlib.Data.List.Basic
import Daybook.Proofs.Number.Digits
import Daybook.Proofs.Text.Words

/-!
Texts without braces. What is written between double braces can be told from the text around it
if it has no braces itself.
-/

namespace Daybook.Text

def isBrace (c : Char) : Bool := c == '\x7b' || c == '\x7d'

def BraceFree (cs : List Char) : Prop := ∀ c ∈ cs, isBrace c = false

instance (cs : List Char) : Decidable (BraceFree cs) :=
  List.decidableBAll (isBrace · = false) cs

def braced (body : List Char) : List Char := '\x7b' :: '\x7b' :: (body ++ ['\x7d', '\x7d'])

variable {cs ds s t : List Char} {c : Char}

@[simp] lemma braceFree_nil : BraceFree [] := nofun

@[simp] lemma braceFree_cons : BraceFree (c :: cs) ↔ isBrace c = false ∧ BraceFree cs :=
  List.forall_mem_cons

@[simp] lemma braceFree_append : BraceFree (cs ++ ds) ↔ BraceFree cs ∧ BraceFree ds :=
  List.forall_mem_append

lemma BraceFree.subset (h : BraceFree cs) (hs : ds ⊆ cs) : BraceFree ds := fun c hc => h c (hs hc)

lemma braceFree_replicate (n : ℕ) (h : isBrace c = false) : BraceFree (List.replicate n c) := by
  intro d hd
  rw [(List.mem_replicate.1 hd).2]
  exact h

lemma isBrace_of_kind {p : Char → Bool} (hopen : p '\x7b' = false) (hclose : p '\x7d' = false)
    (h : p c = true) : isBrace c = false := by
  rw [isBrace, Bool.or_eq_false_iff, beq_eq_false_iff_ne, beq_eq_false_iff_ne]
  constructor <;> rintro rfl
  · exact absurd h (by simp [hopen])
  · exact absurd h (by simp [hclose])

lemma isBrace_of_lt (h : c.toNat < 123) : isBrace c = false :=
  isBrace_of_kind (p := fun c => decide (c.toNat < 123)) (by decide) (by decide)
    (decide_eq_true h)

lemma isBrace_of_isBlank (h : isBlank c = true) : isBrace c = false :=
  isBrace_of_kind (by decide) (by decide) h

lemma braceFree_of_isDigits (h : Number.IsDigits cs) : BraceFree cs := fun c hc =>
  isBrace_of_lt (by have := Number.bounds_of_isDigit (h c hc); omega)

lemma append_brace_inj (hc : isBrace c = true) (hcs : BraceFree cs) (hds : BraceFree ds)
    (h : cs ++ c :: s = ds ++ c :: t) : cs = ds ∧ s = t := by
  induction cs generalizing ds with
  | nil =>
    cases ds with
    | nil => exact ⟨rfl, (List.cons.inj h).2⟩
    | cons d ds =>
      rw [← (List.cons.inj h).1, braceFree_cons, hc] at hds
      cases hds.1
  | cons a cs ih =>
    rw [braceFree_cons] at hcs
    cases ds with
    | nil =>
      rw [(List.cons.inj h).1, hc] at hcs
      cases hcs.1
    | cons d ds =>
      obtain ⟨rfl, htail⟩ := List.cons.inj h
      obtain ⟨rfl, rfl⟩ := ih hcs.2 (braceFree_cons.1 hds).2 htail
      exact ⟨rfl, rfl⟩

lemma exists_append_of_braceFree (hc : isBrace c = true) (hcs : BraceFree cs)
    (h : cs ++ s = ds ++ c :: t) : ∃ es, ds = cs ++ es ∧ s = es ++ c :: t := by
  rcases List.append_eq_append_iff.1 h with ⟨es, hes, hs⟩ | ⟨es, hes, ht⟩
  · exact ⟨es, hes, hs⟩
  · cases es with
    | nil => exact ⟨[], by simpa using hes.symm, by simpa using ht.symm⟩
    | cons e es =>
      rw [hes, braceFree_append, braceFree_cons, ← (List.cons.inj ht).1, hc] at hcs
      cases hcs.2.1

lemma braced_injective : Function.Injective braced := fun cs ds h => by
  simpa [braced] using h

lemma braced_append_inj (hcs : BraceFree cs) (hds : BraceFree ds)
    (h : braced cs ++ s = braced ds ++ t) : cs = ds ∧ s = t := by
  simp only [braced, List.cons_append, List.append_assoc, List.nil_append, List.cons.injEq,
    true_and] at h
  obtain ⟨hbody, hrest⟩ := append_brace_inj rfl hcs hds h
  exact ⟨hbody, (List.cons.inj hrest).2⟩

/-! ### Finding what is between double braces -/

lemma not_braced_prefix_cons (hc : c ≠ '\x7b') : ¬ braced ds <+: c :: t := by
  rintro ⟨u, h⟩
  exact hc (List.cons.inj h).1.symm

lemma head_ne_of_braceFree (h : BraceFree (c :: cs)) : c ≠ '\x7b' := by
  rintro rfl
  exact absurd (braceFree_cons.1 h).1 (by decide)

lemma braced_prefix_of_append (hds : BraceFree ds) {body : List Char}
    (h : braced body <+: cs ++ ds) : braced body <+: cs := by
  rcases List.prefix_or_prefix_of_prefix h (List.prefix_append cs ds) with h' | ⟨es, hes⟩
  · exact h'
  · have hend : braced body = ('\x7b' :: '\x7b' :: (body ++ ['\x7d'])) ++ ['\x7d'] := by
      simp [braced]
    rw [← hes, List.prefix_append_right_inj] at h
    rcases List.eq_nil_or_concat es with rfl | ⟨es, c, rfl⟩
    · exact ⟨[], by rw [← hes, List.append_nil, List.append_nil]⟩
    · rw [hend, List.concat_eq_append, ← List.append_assoc] at hes
      have hc : c = '\x7d' := (List.cons.inj (List.append_inj' hes rfl).2).1
      have hbrace := hds c (h.subset (by simp))
      rw [hc] at hbrace
      cases hbrace

lemma not_braced_prefix_inside (hne : cs ≠ []) (hcs : BraceFree cs) {b : List Char}
    (hb : b <:+ braced cs) (hb0 : b ≠ []) (hbc : b ≠ braced cs) : ¬ braced ds <+: b ++ t := by
  rw [braced] at hbc
  rw [braced, List.suffix_cons_iff, List.suffix_cons_iff] at hb
  rcases hb with rfl | rfl | hb
  · exact absurd rfl hbc
  · rintro ⟨u, h⟩
    obtain ⟨d, cs, rfl⟩ := List.exists_cons_of_ne_nil hne
    exact head_ne_of_braceFree hcs (List.cons.inj (List.cons.inj h).2).1.symm
  · obtain ⟨d, b, rfl⟩ := List.exists_cons_of_ne_nil hb0
    refine not_braced_prefix_cons ?_
    rcases List.mem_append.1 (hb.subset List.mem_cons_self) with hd | hd
    · rintro rfl
      exact absurd (hcs _ hd) (by decide)
    · simp only [List.mem_cons, List.not_mem_nil, or_false, or_self] at hd
      rw [hd]
      decide

lemma not_braced_prefix_of_suffix (hne : cs ≠ []) (hcs : BraceFree cs) (hds : BraceFree ds)
    (hcd : cs ≠ ds) {b : List Char} (hb : b <:+ braced cs) (hb0 : b ≠ []) :
    ¬ braced ds <+: b ++ t := by
  by_cases hbc : b = braced cs
  · rintro ⟨u, h⟩
    rw [hbc] at h
    exact hcd (braced_append_inj hds hcs h).1.symm
  · exact not_braced_prefix_inside hne hcs hb hb0 hbc

end Daybook.Text
