import Daybook.Proofs.Template.Substitution

/-!
Where the placeholders of a text are. The scan finds each text that has the form of a placeholder
wherever it stands, because no two of them share a character; so what is found are the different
texts of this form, in the order in which they first occur, and writing over one of them changes
the text exactly where the scan has found it.
-/

namespace Daybook

open Text

/-- The text `w` stands in `cs`, behind the first `k` characters. -/
def Text.OccursAt (w cs : List Char) (k : ℕ) : Prop := w <+: cs.drop k

namespace Text

variable {w s t cs : List Char} {n : ℕ}

lemma occursAt_zero : OccursAt w cs 0 ↔ w <+: cs := Iff.rfl

lemma occursAt_append : OccursAt w (s ++ t) (s.length + n) ↔ OccursAt w t n := by
  rw [OccursAt, ← List.drop_drop, List.drop_left, OccursAt]

lemma infix_iff_occursAt : w <:+: cs ↔ ∃ k, OccursAt w cs k := by
  constructor
  · rintro ⟨before, after, rfl⟩
    exact ⟨before.length, after, by rw [List.append_assoc, List.drop_left]⟩
  · rintro ⟨k, hk⟩
    exact hk.isInfix.trans (List.drop_suffix k cs).isInfix

end Text

namespace Placeholder

/-- The form of a placeholder: characters of an expression between double braces, perhaps
followed by two colons and characters of a format. -/
inductive Matches : List Char → Prop
  | plain {e : List Char} : e ≠ [] → (∀ c ∈ e, isExpression c = true) → Matches (braced e)
  | formatted {e f : List Char} : e ≠ [] → (∀ c ∈ e, isExpression c = true) → f ≠ [] →
      (∀ c ∈ f, isFormat c = true) → Matches (braced (e ++ ':' :: ':' :: f))

variable {p q : Placeholder} {cs w : List Char} {k n : ℕ}

lemma matches_iff : Matches w ↔ ∃ p : Placeholder, p.Proper ∧ p.source = w := by
  constructor
  · rintro (⟨hne, he⟩ | ⟨hne, he, hf0, hf⟩)
    · exact ⟨_, .plain hne he, by simp [make, braced]⟩
    · exact ⟨_, .formatted hne he hf0 hf, by simp [make, braced]⟩
  · rintro ⟨_, ⟨hne, he⟩ | ⟨hne, he, hf0, hf⟩, rfl⟩
    · simpa [make, braced] using Matches.plain hne he
    · simpa [make, braced] using Matches.formatted hne he hf0 hf

lemma Proper.form (h : p.Proper) : ':' ∉ p.expression ∧
    (p.source = braced p.expression ∧ p.format = none ∨
      ∃ f, p.source = braced (p.expression ++ ':' :: ':' :: f) ∧
        p.format = if trim f = [] then none else some (trim f)) := by
  have hcolon : ∀ {e : List Char}, (∀ c ∈ e, isExpression c = true) → ':' ∉ e := fun he hmem =>
    absurd (he ':' hmem) (by decide)
  cases h with
  | plain hne he => exact ⟨hcolon he, .inl ⟨by simp [make, braced], rfl⟩⟩
  | @formatted e f hne he hf0 hf => exact ⟨hcolon he, .inr ⟨f, by simp [make, braced], rfl⟩⟩

lemma Proper.source_ne_nil (h : p.Proper) : p.source ≠ [] := by
  obtain ⟨body, hbody, -⟩ := h.source_eq
  simp [hbody, braced]

lemma Proper.not_occursAt (hp : p.Proper) (hq : q.Proper) (hn : 0 < n) (hlt : n < p.source.length)
    (h : p.source <+: cs) : ¬ OccursAt q.source cs n := by
  obtain ⟨t, rfl⟩ := h
  obtain ⟨inner, hinner, hne, hbf⟩ := hp.source_eq
  obtain ⟨body, hbody, -⟩ := hq.source_eq
  have hrest : p.source.drop n ≠ [] := by
    rw [ne_eq, List.drop_eq_nil_iff]
    omega
  have hproper : p.source.drop n ≠ braced inner := fun heq => by
    have hlen := congrArg List.length heq
    rw [← hinner, List.length_drop] at hlen
    omega
  rw [OccursAt, hbody, List.drop_append_of_le_length (Nat.le_of_lt hlt)]
  exact not_braced_prefix_inside hne hbf (hinner ▸ List.drop_suffix n p.source) hrest hproper

/-- **No two placeholders overlap.** -/
lemma Proper.disjoint {l : ℕ} (hp : p.Proper) (hq : q.Proper) (hk : OccursAt p.source cs k)
    (hl : OccursAt q.source cs l) (hkl : k ≤ l) : (k = l ∧ p = q) ∨ k + p.source.length ≤ l := by
  rcases Nat.eq_or_lt_of_le hkl with rfl | hlt
  · have h : some p = some q := (first?_eq_some.2 ⟨hp, hk⟩).symm.trans (first?_eq_some.2 ⟨hq, hl⟩)
    exact .inl ⟨rfl, Option.some.inj h⟩
  · refine .inr ?_
    by_contra hover
    refine hp.not_occursAt hq (n := l - k) (by omega) (by omega) hk ?_
    rwa [OccursAt, List.drop_drop, Nat.add_sub_cancel' hkl]

end Placeholder

namespace Template

open Placeholder

/-! ### The places that the scan has found -/

/-- The placeholders among pieces, each with its place in the text. -/
def spansFrom : ℕ → List Piece → List (ℕ × Placeholder)
  | _, [] => []
  | k, .plain _ :: ps => spansFrom (k + 1) ps
  | k, .hole p :: ps => (k, p) :: spansFrom (k + p.source.length) ps

/-- The placeholders that the scan of a text has found, each with its place. -/
def spans (cs : List Char) : List (ℕ × Placeholder) := spansFrom 0 (pieces cs)

variable {p q : Placeholder} {ps : List Piece} {cs : List Char} {k m : ℕ}

lemma map_snd_spansFrom (k : ℕ) (ps : List Piece) : (spansFrom k ps).map Prod.snd = holes ps := by
  induction ps generalizing k with
  | nil => rfl
  | cons x ps ih =>
    cases x with
    | plain c => exact ih (k + 1)
    | hole p => rw [spansFrom, List.map_cons, holes_hole, ih]

lemma map_snd_spans (cs : List Char) : (spans cs).map Prod.snd = Placeholder.all cs := by
  rw [spans, map_snd_spansFrom, holes_pieces]

lemma mem_spansFrom (h : Scanned ps) : (m, p) ∈ spansFrom k ps ↔
    ∃ n, m = k + n ∧ p.Proper ∧ OccursAt p.source (assemble (·.source) ps) n := by
  induction h generalizing k with
  | nil =>
    refine iff_of_false List.not_mem_nil ?_
    rintro ⟨n, -, hp, hocc⟩
    rw [assemble_nil, OccursAt, List.drop_nil, List.prefix_nil] at hocc
    exact hp.source_ne_nil hocc
  | plain hfirst _ ih =>
    rw [spansFrom, ih, assemble_plain]
    constructor
    · rintro ⟨n, rfl, hp, hocc⟩
      exact ⟨n + 1, by omega, hp, hocc⟩
    · rintro ⟨n, rfl, hp, hocc⟩
      cases n with
      | zero =>
        rw [first?_eq_some.2 ⟨hp, occursAt_zero.1 hocc⟩] at hfirst
        cases hfirst
      | succ n => exact ⟨n, by omega, hp, hocc⟩
  | @hole q ps hq _ ih =>
    rw [spansFrom, List.mem_cons, ih, assemble_hole]
    constructor
    · rintro (heq | ⟨n, rfl, hp, hocc⟩)
      · cases heq
        exact ⟨0, rfl, hq, List.prefix_append _ _⟩
      · exact ⟨q.source.length + n, by omega, hp, occursAt_append.2 hocc⟩
    · rintro ⟨n, rfl, hp, hocc⟩
      have hhere : OccursAt q.source (q.source ++ assemble (·.source) ps) 0 :=
        occursAt_zero.2 (List.prefix_append _ _)
      -- the two do not overlap, so another one begins behind this one
      rcases hq.disjoint hp hhere hocc (Nat.zero_le n) with ⟨rfl, rfl⟩ | hn
      · exact .inl rfl
      · obtain ⟨n, rfl⟩ := Nat.exists_eq_add_of_le hn
        rw [Nat.zero_add] at hocc ⊢
        exact .inr ⟨n, by omega, hp, occursAt_append.1 hocc⟩

/-- **The scan finds every placeholder**: its places are all those where one stands. -/
lemma mem_spans : (k, p) ∈ spans cs ↔ p.Proper ∧ OccursAt p.source cs k := by
  rw [spans, mem_spansFrom (scanned_pieces cs), assemble_pieces]
  constructor
  · rintro ⟨n, rfl, h⟩
    rwa [Nat.zero_add]
  · exact fun h => ⟨k, (Nat.zero_add k).symm, h⟩

lemma le_of_mem_spansFrom (h : (m, p) ∈ spansFrom k ps) : k ≤ m := by
  induction ps generalizing k with
  | nil => cases h
  | cons x ps ih =>
    cases x with
    | plain c => exact Nat.le_of_succ_le (ih h)
    | hole q =>
      rcases List.mem_cons.1 h with h | h
      · cases h
        exact Nat.le_refl _
      · exact Nat.le_trans (Nat.le_add_right _ _) (ih h)

lemma pairwise_spansFrom (h : Scanned ps) (k : ℕ) :
    (spansFrom k ps).Pairwise fun s t => s.1 < t.1 := by
  induction h generalizing k with
  | nil => exact .nil
  | plain _ _ ih => exact ih (k + 1)
  | @hole q ps hq _ ih =>
    refine List.pairwise_cons.2 ⟨fun t ht => ?_, ih _⟩
    have hlen := List.length_pos_of_ne_nil hq.source_ne_nil
    have hle := le_of_mem_spansFrom ht
    simp only
    omega

/-! ### What is found -/

lemma exists_mem_spans : (∃ k, (k, p) ∈ spans cs) ↔ p ∈ find cs := by
  rw [← hole_mem_pieces, ← mem_holes, holes_pieces, ← map_snd_spans, List.mem_map]
  constructor
  · rintro ⟨k, hk⟩
    exact ⟨(k, p), hk, rfl⟩
  · rintro ⟨⟨k, q⟩, hk, rfl⟩
    exact ⟨k, hk⟩

lemma mem_find : p ∈ find cs ↔ p.Proper ∧ p.source <:+: cs := by
  rw [← exists_mem_spans, infix_iff_occursAt, ← exists_and_left]
  exact exists_congr fun k => mem_spans

/-- Of the different placeholders among some with rising places, each comes for the first time
before the next ones do. -/
lemma pairwise_distinct {ss : List (ℕ × Placeholder)} (hss : ss.Pairwise fun s t => s.1 < t.1)
    (seen : List (List Char)) :
    (distinct seen (ss.map Prod.snd)).Pairwise fun p q => ∀ l r, (l, r) ∈ ss →
      r.source = q.source → ∃ k < l, ∃ r, (k, r) ∈ ss ∧ r.source = p.source := by
  induction ss generalizing seen with
  | nil => exact .nil
  | cons s ss ih =>
    obtain ⟨j, d⟩ := s
    obtain ⟨hhead, htail⟩ := List.pairwise_cons.1 hss
    -- behind `d`, what has another source comes for the first time as it does without `d`
    have hrest : ∀ seen, d.source ∈ seen → (distinct seen (ss.map Prod.snd)).Pairwise
        fun p q => ∀ l r, (l, r) ∈ (j, d) :: ss → r.source = q.source →
          ∃ k < l, ∃ r, (k, r) ∈ (j, d) :: ss ∧ r.source = p.source := by
      intro seen hd
      refine (ih htail seen).imp_of_mem fun {p q} _ hq h l r hr hsource => ?_
      rcases List.mem_cons.1 hr with heq | hr
      · cases heq
        exact absurd (hsource ▸ hd) (source_not_mem_of_mem_distinct hq)
      · obtain ⟨k, hk, r, hr, hp⟩ := h l r hr hsource
        exact ⟨k, hk, r, List.mem_cons_of_mem _ hr, hp⟩
    rw [List.map_cons, distinct]
    split
    · rename_i hd
      exact hrest seen hd
    · refine List.pairwise_cons.2 ⟨fun q hq l r hr hsource => ?_, hrest _ List.mem_cons_self⟩
      rcases List.mem_cons.1 hr with heq | hr
      · cases heq
        exact absurd (by simp [hsource]) (source_not_mem_of_mem_distinct hq)
      · exact ⟨j, hhead _ hr, d, List.mem_cons_self, rfl⟩

lemma pairwise_find (cs : List Char) : (find cs).Pairwise fun p q =>
    ∀ l, OccursAt q.source cs l → ∃ k < l, OccursAt p.source cs k := by
  have h := pairwise_distinct (pairwise_spansFrom (scanned_pieces cs) 0) []
  rw [← spans, map_snd_spans, ← find] at h
  refine h.imp_of_mem fun {p q} _ hq h l hl => ?_
  obtain ⟨k, hk, r, hr, hsource⟩ := h l q (mem_spans.2 ⟨(mem_find.1 hq).1, hl⟩) rfl
  exact ⟨k, hk, hsource ▸ (mem_spans.1 hr).2⟩

/-- Writing over a placeholder changes exactly the places where the scan has found it. -/
lemma replaceAll_pieces {new : List Char} (hq : q.Proper) (h : Scanned ps) :
    replaceAll q.source new (assemble (·.source) ps) =
      assemble (Function.update (·.source) q new) ps := by
  induction h with
  | nil => rfl
  | @plain c ps hfirst _ ih =>
    have hhere : ¬ q.source <+: c :: assemble (·.source) ps := fun h => by
      rw [first?_eq_some.2 ⟨hq, h⟩] at hfirst
      cases hfirst
    rw [assemble_plain, assemble_plain, replaceAll_cons hhere, ih]
  | @hole p ps hp hps ih =>
    have hwritten : Written (·.source) (.hole p :: ps) := fun d hd =>
      ⟨(Scanned.hole hp hps).proper hd, .inl rfl⟩
    rw [assemble_hole, assemble_hole, replaceAll_hole hwritten hq rfl, ih]

/-- **The placeholders of a text are found exactly.** Listed are the different texts that have the
form of a placeholder and stand in the text, in the order in which they first occur. Two such
texts share no character. The scan, from the left to the right, finds them wherever they stand,
and writing over one changes exactly these places. The format is what follows the first two
colons, without the blanks around it. -/
theorem find_exactly (cs : List Char) :
    ((find cs).map (·.source)).Nodup ∧
    (∀ w, w ∈ (find cs).map (·.source) ↔ Matches w ∧ w <:+: cs) ∧
    ((find cs).Pairwise fun p q => ∀ l, OccursAt q.source cs l → ∃ k < l, OccursAt p.source cs k) ∧
    (∀ v w k l, Matches v → Matches w → OccursAt v cs k → OccursAt w cs l →
      (k = l ∧ v = w) ∨ k + v.length ≤ l ∨ l + w.length ≤ k) ∧
    ((spans cs).map Prod.snd = Placeholder.all cs ∧ (spans cs).Pairwise (fun s t => s.1 < t.1) ∧
      ∀ w k, Matches w → (OccursAt w cs k ↔ ∃ p, (k, p) ∈ spans cs ∧ p.source = w)) ∧
    (∀ p ∈ find cs, ∀ new, replaceAll p.source new cs =
      assemble (fun q => if q = p then new else q.source) (pieces cs)) ∧
    ∀ p ∈ find cs, ':' ∉ p.expression ∧
      (p.source = braced p.expression ∧ p.format = none ∨
        ∃ f, p.source = braced (p.expression ++ ':' :: ':' :: f) ∧
          p.format = if trim f = [] then none else some (trim f)) := by
  refine ⟨nodup_find cs, fun w => ?_, pairwise_find cs, ?_,
    ⟨map_snd_spans cs, pairwise_spansFrom (scanned_pieces cs) 0, ?_⟩, ?_, fun p hp => ?_⟩
  · rw [matches_iff, List.mem_map]
    constructor
    · rintro ⟨p, hp, rfl⟩
      exact ⟨⟨p, (mem_find.1 hp).1, rfl⟩, (mem_find.1 hp).2⟩
    · rintro ⟨⟨p, hp, rfl⟩, hinfix⟩
      exact ⟨p, mem_find.2 ⟨hp, hinfix⟩, rfl⟩
  · intro v w k l hv hw hk hl
    obtain ⟨p, hp, rfl⟩ := matches_iff.1 hv
    obtain ⟨q, hq, rfl⟩ := matches_iff.1 hw
    -- of two matches the one that begins first ends before the other
    rcases Nat.le_total k l with hkl | hlk
    · rcases hp.disjoint hq hk hl hkl with ⟨heq, rfl⟩ | hbefore
      · exact .inl ⟨heq, rfl⟩
      · exact .inr (.inl hbefore)
    · rcases hq.disjoint hp hl hk hlk with ⟨heq, rfl⟩ | hbefore
      · exact .inl ⟨heq.symm, rfl⟩
      · exact .inr (.inr hbefore)
  · intro w k hw
    obtain ⟨p, hp, rfl⟩ := matches_iff.1 hw
    constructor
    · exact fun hk => ⟨p, mem_spans.2 ⟨hp, hk⟩, rfl⟩
    · rintro ⟨q, hq, hsource⟩
      exact hsource ▸ (mem_spans.1 hq).2
  · intro p hp new
    have h : replaceAll p.source new (assemble (·.source) (pieces cs)) =
        assemble (Function.update (·.source) p new) (pieces cs) :=
      replaceAll_pieces (mem_find.1 hp).1 (scanned_pieces cs)
    rw [assemble_pieces] at h
    rw [h]
    exact assemble_congr fun q _ => by rw [Function.update_apply]
  · exact (mem_find.1 hp).1.form

end Template

end Daybook
