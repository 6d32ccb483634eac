import Mathlib.Data.List.TakeWhile
import Daybook.Proofs.Text.Braces
import Daybook.Template.Placeholder

/-!
Placeholders. Each can be told from its source, wherever that stands, and of several with the
same source only the first is found.
-/

namespace Daybook.Placeholder

open Text

/-! ### The form of a placeholder -/

variable {p q : Placeholder} {cs t : List Char} {c : Char}

lemma isBrace_of_isExpression (h : isExpression c = true) : isBrace c = false :=
  isBrace_of_kind (by decide) (by decide) h

lemma isBrace_of_isFormat (h : isFormat c = true) : isBrace c = false :=
  isBrace_of_kind (by decide) (by decide) h

/-- A placeholder as it can be found: expression and written format are not empty and made of the
characters that they may hold. -/
inductive Proper : Placeholder → Prop
  | plain {e : List Char} : e ≠ [] → (∀ c ∈ e, isExpression c = true) → Proper (make e none)
  | formatted {e f : List Char} : e ≠ [] → (∀ c ∈ e, isExpression c = true) → f ≠ [] →
      (∀ c ∈ f, isFormat c = true) → Proper (make e (some f))

lemma Proper.source_eq (h : p.Proper) :
    ∃ body, p.source = braced body ∧ body ≠ [] ∧ BraceFree body := by
  cases h with
  | @plain e hne he =>
    exact ⟨e, by simp [make, braced], hne, fun c hc => isBrace_of_isExpression (he c hc)⟩
  | @formatted e f hne he hf0 hf =>
    refine ⟨e ++ ':' :: ':' :: f, by simp [make, braced], by simp [hne], ?_⟩
    simp only [braceFree_append, braceFree_cons]
    exact ⟨fun c hc => isBrace_of_isExpression (he c hc), rfl, rfl,
      fun c hc => isBrace_of_isFormat (hf c hc)⟩

lemma Proper.braceFree_format (h : p.Proper) {f : List Char} (hf : p.format = some f) :
    f ≠ [] ∧ BraceFree f := by
  cases h with
  | plain => cases hf
  | @formatted e g hne he hg0 hg =>
    simp only [make, Option.bind_some, formatOf] at hf
    split at hf
    · cases hf
    · rename_i hne
      cases hf
      exact ⟨hne, fun c hc => isBrace_of_isFormat (hg c (trim_subset g hc))⟩

lemma ending?_eq_some {raw : Option (List Char)} (h : ending? cs = some raw) :
    (raw = none ∧ ∃ t, cs = '\x7d' :: '\x7d' :: t) ∨
      ∃ f t, raw = some f ∧ f ≠ [] ∧ (∀ c ∈ f, isFormat c = true) ∧
        cs = ':' :: ':' :: (f ++ '\x7d' :: '\x7d' :: t) := by
  rw [ending?.eq_def] at h
  split at h
  · cases h
    exact .inl ⟨rfl, _, rfl⟩
  · rename_i rest
    dsimp only at h
    split at h
    · cases h
    rename_i hne
    split at h
    · rename_i t ht
      cases h
      refine .inr ⟨_, t, rfl, hne, fun c hc => List.mem_takeWhile_imp hc, ?_⟩
      rw [← ht, List.takeWhile_append_dropWhile]
    · cases h
  · cases h

lemma first?_eq_some : first? cs = some p ↔ p.Proper ∧ p.source <+: cs := by
  constructor
  · intro h
    rw [first?.eq_def] at h
    split at h
    · rename_i rest
      dsimp only at h
      split at h
      · cases h
      rename_i hne
      obtain ⟨raw, hraw, rfl⟩ := Option.map_eq_some_iff.1 h
      -- the expression reaches up to the first character that cannot belong to it
      have he : ∀ c ∈ rest.takeWhile isExpression, isExpression c = true := fun c hc =>
        List.mem_takeWhile_imp hc
      rcases ending?_eq_some hraw with ⟨rfl, t, ht⟩ | ⟨f, t, rfl, hf0, hf, ht⟩
      · refine ⟨.plain hne he, t, ?_⟩
        conv_rhs => rw [← List.takeWhile_append_dropWhile (p := isExpression) (l := rest), ht]
        simp [make]
      · refine ⟨.formatted hne he hf0 hf, t, ?_⟩
        conv_rhs => rw [← List.takeWhile_append_dropWhile (p := isExpression) (l := rest), ht]
        simp [make]
    · cases h
  · rintro ⟨hp, t, rfl⟩
    cases hp with
    | @plain e hne he =>
      obtain ⟨htake, hdrop⟩ := takeWhile_stop (r := '\x7d' :: t) he
        (show isExpression '\x7d' = false by decide)
      simp [make, first?, htake, hdrop, hne, ending?]
    | @formatted e f hne he hf0 hf =>
      obtain ⟨htake, hdrop⟩ := takeWhile_stop (r := ':' :: (f ++ '\x7d' :: '\x7d' :: t)) he
        (show isExpression ':' = false by decide)
      obtain ⟨hftake, hfdrop⟩ := takeWhile_stop (r := '\x7d' :: t) hf
        (show isFormat '\x7d' = false by decide)
      simp [make, first?, htake, hdrop, hne, ending?, hftake, hfdrop, hf0]

lemma Proper.eq_of_source_eq (hp : p.Proper) (hq : q.Proper) (h : p.source = q.source) : p = q := by
  have h1 : first? p.source = some p := first?_eq_some.2 ⟨hp, List.prefix_rfl⟩
  have h2 : first? q.source = some q := first?_eq_some.2 ⟨hq, List.prefix_rfl⟩
  rw [h, h2] at h1
  exact (Option.some.inj h1).symm

/-! ### Different placeholders -/

variable {seen : List (List Char)} {ps : List Placeholder}

lemma mem_of_mem_distinct (h : p ∈ distinct seen ps) : p ∈ ps := by
  induction ps generalizing seen with
  | nil => cases h
  | cons q ps ih =>
    rw [distinct] at h
    split at h
    · exact List.mem_cons_of_mem q (ih h)
    · rcases List.mem_cons.1 h with rfl | h
      · exact List.mem_cons_self
      · exact List.mem_cons_of_mem q (ih h)

lemma exists_mem_distinct (hp : p ∈ ps) (hs : p.source ∉ seen) :
    ∃ q ∈ distinct seen ps, q.source = p.source := by
  induction ps generalizing seen with
  | nil => cases hp
  | cons q ps ih =>
    rw [distinct]
    rcases List.mem_cons.1 hp with rfl | hp
    · rw [if_neg hs]
      exact ⟨p, List.mem_cons_self, rfl⟩
    · split
      · exact ih hp hs
      · by_cases hq : p.source = q.source
        · exact ⟨q, List.mem_cons_self, hq.symm⟩
        · have hseen : p.source ∉ q.source :: seen := by simp [hq, hs]
          obtain ⟨d, hd, hsource⟩ := ih hp hseen
          exact ⟨d, List.mem_cons_of_mem q hd, hsource⟩

lemma source_not_mem_of_mem_distinct (h : p ∈ distinct seen ps) : p.source ∉ seen := by
  induction ps generalizing seen with
  | nil => cases h
  | cons q ps ih =>
    rw [distinct] at h
    split at h
    · exact ih h
    · rename_i hq
      rcases List.mem_cons.1 h with rfl | h
      · exact hq
      · exact fun hp => ih h (List.mem_cons_of_mem _ hp)

lemma nodup_distinct (seen : List (List Char)) (ps : List Placeholder) :
    ((distinct seen ps).map (·.source)).Nodup := by
  induction ps generalizing seen with
  | nil => exact List.nodup_nil
  | cons p ps ih =>
    rw [distinct]
    split
    · exact ih seen
    · rw [List.map_cons, List.nodup_cons]
      refine ⟨fun h => ?_, ih _⟩
      obtain ⟨q, hq, hsource⟩ := List.mem_map.1 h
      exact source_not_mem_of_mem_distinct hq (by simp [hsource])

lemma nodup_find (cs : List Char) : ((find cs).map (·.source)).Nodup := nodup_distinct [] _

/-! ### A placeholder alone -/

lemma scan_of_length_le {n : ℕ} (h : cs.length ≤ n) : scan n cs = [] := by
  induction cs generalizing n with
  | nil => cases n <;> rfl
  | cons c cs ih =>
    cases n with
    | zero => exact absurd h (Nat.not_succ_le_zero _)
    | succ n => exact ih (Nat.le_of_succ_le_succ h)

lemma find_source (hp : p.Proper) : find p.source = [p] := by
  have hfirst : first? p.source = some p := first?_eq_some.2 ⟨hp, List.prefix_rfl⟩
  have hall : all p.source = [p] := by
    cases hs : p.source with
    | nil =>
      rw [hs] at hfirst
      cases hfirst
    | cons d ds =>
      rw [hs] at hfirst
      have hrest : scan (p.source.length - 1) ds = [] := by
        refine scan_of_length_le ?_
        rw [hs]
        exact Nat.le_refl _
      rw [all, scan, hfirst]
      simp only [hrest]
  rw [find, hall]
  rfl

/-! ### Text around placeholders -/

variable {ds : List Char}

lemma first?_append (hds : BraceFree ds) (cs : List Char) : first? (cs ++ ds) = first? cs := by
  refine Option.ext fun p => ?_
  rw [first?_eq_some, first?_eq_some]
  refine and_congr_right fun hp => ⟨fun h => ?_, fun h => h.trans (List.prefix_append cs ds)⟩
  obtain ⟨body, hbody, -⟩ := hp.source_eq
  rw [hbody] at h ⊢
  exact braced_prefix_of_append hds h

lemma first?_of_braceFree (hds : BraceFree ds) : first? ds = none := first?_append hds []

lemma scan_of_braceFree (hds : BraceFree ds) (n : ℕ) : scan n ds = [] := by
  induction ds generalizing n with
  | nil => cases n <;> rfl
  | cons d ds ih =>
    cases n with
    | succ n => exact ih (braceFree_cons.1 hds).2 n
    | zero =>
      rw [scan, first?_of_braceFree hds]
      exact ih (braceFree_cons.1 hds).2 0

lemma scan_append (hds : BraceFree ds) (n : ℕ) (cs : List Char) :
    scan n (cs ++ ds) = scan n cs := by
  induction cs generalizing n with
  | nil =>
    rw [List.nil_append, scan_of_braceFree hds]
    cases n <;> rfl
  | cons c cs ih =>
    cases n with
    | succ n => exact ih n
    | zero =>
      have hfirst : first? (c :: (cs ++ ds)) = first? (c :: cs) := first?_append hds (c :: cs)
      rw [List.cons_append, scan, scan, hfirst]
      split
      · rw [ih]
      · rw [ih]

lemma scan_append_left (hds : BraceFree ds) (cs : List Char) : scan 0 (ds ++ cs) = scan 0 cs := by
  induction ds with
  | nil => rfl
  | cons d ds ih =>
    have hfirst : first? (d :: (ds ++ cs)) = none := by
      refine Option.eq_none_iff_forall_ne_some.2 fun p hp => ?_
      obtain ⟨hproper, hsource⟩ := first?_eq_some.1 hp
      obtain ⟨body, hbody, -⟩ := hproper.source_eq
      rw [hbody] at hsource
      exact not_braced_prefix_cons (head_ne_of_braceFree hds) hsource
    rw [List.cons_append, scan, hfirst]
    exact ih (braceFree_cons.1 hds).2

lemma find_trim (cs : List Char) : find (trim cs) = find cs := by
  obtain ⟨before, after, hcs, hbefore, hafter⟩ := exists_trim cs
  have hall : all cs = all (trim cs) := by
    conv_lhs => rw [hcs]
    rw [all, scan_append_left (fun c hc => isBrace_of_isBlank (hbefore c hc)),
      scan_append (fun c hc => isBrace_of_isBlank (hafter c hc)), all]
  rw [find, find, hall]

end Daybook.Placeholder
