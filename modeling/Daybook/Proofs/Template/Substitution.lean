import Mathlib.Data.List.Nodup
import Mathlib.Logic.Function.Basic
import Daybook.Proofs.Template.Pieces
import Daybook.Proofs.Template.Writing
import Daybook.Proofs.Text.Occurrences

/-!
Rendering as one substitution. The values are written one placeholder after the other, each into
the text as it is by then; this comes to writing all of them at once into the template, unless
values and plain text together make up the source of a placeholder whose turn is still to come.
-/

namespace Daybook.Template

open Text Placeholder

/-! ### Enclosed pieces -/

variable {f g : Placeholder → List Char} {ps qs mid : List Piece} {p q : Placeholder}
variable {c : Char} {t new : List Char}

/-- Every placeholder stands as it is, or a text without braces stands in its place. -/
def Written (f : Placeholder → List Char) (ps : List Piece) : Prop :=
  ∀ p, .hole p ∈ ps → p.Proper ∧ (f p = p.source ∨ f p ≠ [] ∧ BraceFree (f p))

lemma Written.tail {x : Piece} (h : Written f (x :: ps)) : Written f ps := fun p hp =>
  h p (List.mem_cons_of_mem x hp)

def enclosed (mid : List Piece) : List Piece :=
  .plain '\x7b' :: .plain '\x7b' :: (mid ++ [.plain '\x7d', .plain '\x7d'])

@[simp] lemma assemble_enclosed : assemble f (enclosed mid) = braced (assemble f mid) := by
  simp [enclosed, braced]

/-- Somewhere double braces of the plain text enclose pieces so that all reads like the
placeholder `q`. -/
def Encloses (f : Placeholder → List Char) (q : Placeholder) (ps : List Piece) : Prop :=
  ∃ mid, enclosed mid <:+: ps ∧ q.source = braced (assemble f mid)

lemma not_encloses_nil : ¬ Encloses f q [] := by
  rintro ⟨mid, hmid, -⟩
  cases List.eq_nil_of_infix_nil hmid

lemma Encloses.cons (x : Piece) (h : Encloses f q ps) : Encloses f q (x :: ps) := by
  obtain ⟨mid, hmid, hq⟩ := h
  exact ⟨mid, List.infix_cons hmid, hq⟩

lemma encloses_plain_cases (h : Encloses f q (.plain c :: ps)) :
    q.source <+: c :: assemble f ps ∨ Encloses f q ps := by
  obtain ⟨mid, hmid, hq⟩ := h
  rcases List.infix_cons_iff.1 hmid with ⟨rest, hrest⟩ | hmid
  · refine .inl ⟨assemble f rest, ?_⟩
    rw [hq, ← assemble_enclosed, ← assemble_append, hrest, assemble_plain]
  · exact .inr ⟨mid, hmid, hq⟩

@[simp] lemma encloses_hole : Encloses f q (.hole p :: ps) ↔ Encloses f q ps := by
  refine ⟨?_, Encloses.cons _⟩
  rintro ⟨mid, hmid, hq⟩
  rcases List.infix_cons_iff.1 hmid with ⟨rest, hrest⟩ | hmid
  · cases hrest
  · exact ⟨mid, hmid, hq⟩

lemma head_cases (hf : Written f ps) (hc : isBrace c = true) (h : assemble f ps = c :: t) :
    (∃ qs, ps = .plain c :: qs ∧ assemble f qs = t) ∨
      ∃ p qs, ps = .hole p :: qs ∧ f p = p.source ∧ c = '\x7b' := by
  cases ps with
  | nil => cases h
  | cons x qs =>
    cases x with
    | plain d =>
      obtain ⟨rfl, ht⟩ := List.cons.inj h
      exact .inl ⟨qs, rfl, ht⟩
    | hole p =>
      obtain ⟨hp, hsame | ⟨hne, hbf⟩⟩ := hf p List.mem_cons_self
      · obtain ⟨body, hbody, -⟩ := hp.source_eq
        rw [assemble_hole, hsame, hbody] at h
        exact .inr ⟨p, qs, rfl, hsame, (List.cons.inj h).1.symm⟩
      · obtain ⟨d, ds, hd⟩ := List.exists_cons_of_ne_nil hne
        rw [assemble_hole, hd] at h
        rw [hd, braceFree_cons, (List.cons.inj h).1, hc] at hbf
        cases hbf.1

lemma exists_mid {body : List Char} (hf : Written f ps) (hb : BraceFree body)
    (h : assemble f ps = body ++ '\x7d' :: '\x7d' :: t) :
    ∃ mid rest, ps = mid ++ .plain '\x7d' :: .plain '\x7d' :: rest ∧ assemble f mid = body ∧
      assemble f rest = t := by
  induction ps generalizing body with
  | nil => cases body <;> cases h
  | cons x ps ih =>
    cases body with
    | nil =>
      rcases head_cases hf rfl h with ⟨qs, hx, h⟩ | ⟨p, qs, -, -, h⟩
      · cases hx
        rcases head_cases hf.tail rfl h with ⟨rest, rfl, hrest⟩ | ⟨p, qs, -, -, h⟩
        · exact ⟨[], rest, rfl, rfl, hrest⟩
        · exact absurd h (by decide)
      · exact absurd h (by decide)
    | cons b body =>
      cases x with
      | plain d =>
        obtain ⟨rfl, htail⟩ := List.cons.inj h
        obtain ⟨mid, rest, rfl, rfl, hrest⟩ := ih hf.tail (braceFree_cons.1 hb).2 htail
        exact ⟨.plain d :: mid, rest, rfl, rfl, hrest⟩
      | hole p =>
        obtain ⟨hp, hsame | ⟨-, hbf⟩⟩ := hf p List.mem_cons_self
        · -- a placeholder left as it is would bring a brace
          obtain ⟨inner, hinner, -⟩ := hp.source_eq
          rw [assemble_hole, hsame, hinner] at h
          rw [braceFree_cons, ← (List.cons.inj h).1] at hb
          exact absurd hb.1 (by decide)
        · obtain ⟨es, hes, h⟩ := exists_append_of_braceFree rfl hbf h
          rw [hes, braceFree_append] at hb
          obtain ⟨mid, rest, rfl, rfl, hrest⟩ := ih hf.tail hb.2 h
          exact ⟨.hole p :: mid, rest, rfl, by rw [hes, assemble_hole], hrest⟩

lemma eq_enclosed_of_prefix (hf : Written f (.plain c :: ps)) (hq : q.Proper)
    (h : q.source <+: c :: assemble f ps) :
    ∃ mid rest, .plain c :: ps = enclosed mid ++ rest ∧ q.source = braced (assemble f mid) := by
  obtain ⟨t, ht⟩ := h
  obtain ⟨body, hbody, hne, hbf⟩ := hq.source_eq
  rw [hbody] at ht
  obtain ⟨rfl, htail⟩ := List.cons.inj ht
  have hopen : assemble f ps = '\x7b' :: (body ++ '\x7d' :: '\x7d' :: t) := by
    simpa using htail.symm
  rcases head_cases hf.tail rfl hopen with ⟨qs, rfl, hqs⟩ | ⟨p, qs, rfl, hsame, -⟩
  · obtain ⟨mid, rest, rfl, rfl, -⟩ := exists_mid hf.tail.tail hbf hqs
    exact ⟨mid, rest, by simp [enclosed], hbody⟩
  · -- a placeholder that stands as it is would bring a third brace
    obtain ⟨inner, hinner, -⟩ := (hf.tail p List.mem_cons_self).1.source_eq
    obtain ⟨b, body, rfl⟩ := List.exists_cons_of_ne_nil hne
    rw [assemble_hole, hsame, hinner] at hopen
    exact absurd (List.cons.inj (List.cons.inj hopen).2).1.symm (head_ne_of_braceFree hbf)

/-! ### One placeholder at a time -/

lemma replaceAll_hole (hf : Written f (.hole p :: ps)) (hq : q.Proper) (hfq : f q = q.source) :
    replaceAll q.source new (f p ++ t) =
      Function.update f q new p ++ replaceAll q.source new t := by
  obtain ⟨body, hbody, hne, hbf⟩ := hq.source_eq
  by_cases hpq : p = q
  · subst hpq
    rw [hfq, replaceAll_append_old (by simp [hbody, braced]), Function.update_self]
  · rw [Function.update_of_ne hpq]
    refine replaceAll_append fun b hb hb0 => ?_
    rw [hbody]
    obtain ⟨hp, hsame | ⟨-, hfbf⟩⟩ := hf p List.mem_cons_self
    · obtain ⟨inner, hinner, hine, hibf⟩ := hp.source_eq
      have hdiffer : inner ≠ body := fun hin =>
        hpq (hp.eq_of_source_eq hq (by rw [hinner, hbody, hin]))
      rw [hsame, hinner] at hb
      exact not_braced_prefix_of_suffix hine hibf hbf hdiffer hb hb0
    · obtain ⟨d, ds, rfl⟩ := List.exists_cons_of_ne_nil hb0
      exact not_braced_prefix_cons (head_ne_of_braceFree (hfbf.subset hb.subset))

def opening (cs : List Char) : ℕ := cs.count '\x7b'

lemma opening_cons (d : Char) (cs : List Char) :
    opening (d :: cs) = opening cs + if d = '\x7b' then 1 else 0 := by
  simp [opening, List.count_cons]

lemma opening_append (cs ds : List Char) : opening (cs ++ ds) = opening cs + opening ds :=
  List.count_append

lemma opening_of_braceFree {cs : List Char} (h : BraceFree cs) : opening cs = 0 :=
  List.count_eq_zero.2 fun hmem => absurd (h _ hmem) (by decide)

/-- Pieces that have swallowed up some of the text of others: there is no new placeholder but
`q`, and there are fewer opening braces. -/
structure Shrinks (g : Placeholder → List Char) (q : Placeholder) (ps qs : List Piece) : Prop where
  holes : ∀ p, .hole p ∈ qs → p = q ∨ .hole p ∈ ps
  fewer : opening (assemble g qs) < opening (assemble g ps)

lemma Shrinks.cons (x : Piece) (h : Shrinks g q ps qs) : Shrinks g q (x :: ps) (x :: qs) where
  holes p hp := by
    rcases List.mem_cons.1 hp with rfl | hp
    · exact .inr List.mem_cons_self
    · exact (h.holes p hp).imp_right (List.mem_cons_of_mem x)
  fewer := by
    have hfewer := h.fewer
    cases x with
    | plain d =>
      simp only [assemble_plain, opening_cons]
      omega
    | hole p =>
      simp only [assemble_hole, opening_append]
      omega

lemma Shrinks.mem_find {text : List Char} (h : Shrinks g q ps qs) (hq : q ∈ find text)
    (hps : ∀ p, .hole p ∈ ps → p ∈ find text) (p : Placeholder) (hp : .hole p ∈ qs) :
    p ∈ find text := by
  rcases h.holes p hp with rfl | hp
  · exact hq
  · exact hps p hp

lemma shrinks_enclosed (hg : BraceFree (g q)) (h : qs = ps ∨ Shrinks g q ps qs) :
    Shrinks g q (enclosed mid ++ ps) (.hole q :: qs) where
  holes p hp := by
    rcases List.mem_cons.1 hp with hp | hp
    · cases hp
      exact .inl rfl
    · rcases h with rfl | h
      · exact .inr (List.mem_append_right _ hp)
      · exact (h.holes p hp).imp_right (List.mem_append_right _)
  fewer := by
    have hle : opening (assemble g qs) ≤ opening (assemble g ps) := by
      rcases h with rfl | h
      · exact le_rfl
      · exact h.fewer.le
    have htwo : 2 ≤ opening (braced (assemble g mid)) := by
      simp [opening, braced]
    rw [assemble_hole, assemble_append, assemble_enclosed, opening_append, opening_append,
      opening_of_braceFree hg]
    omega

/-- **One value is written over exactly the places of its placeholder**, unless something else
reads like it; then the pieces shrink. -/
lemma replaceAll_assemble (hf : Written f ps) (hq : q.Proper) (hfq : f q = q.source)
    (hg : BraceFree (g q)) : ∃ qs,
    replaceAll q.source new (assemble f ps) = assemble (Function.update f q new) qs ∧
      ((¬ Encloses f q ps ∧ qs = ps) ∨ (Encloses f q ps ∧ Shrinks g q ps qs)) := by
  -- behind enclosed pieces the scan goes on with what is left of the pieces, not with the tail
  induction hn : ps.length using Nat.strong_induction_on generalizing ps with
  | _ n ih =>
  cases ps with
  | nil => exact ⟨[], rfl, .inl ⟨not_encloses_nil, rfl⟩⟩
  | cons x ps =>
    obtain ⟨qs, hreplace, hqs⟩ := ih ps.length (by rw [← hn, List.length_cons]; omega) hf.tail rfl
    cases x with
    | hole p =>
      refine ⟨.hole p :: qs, ?_, ?_⟩
      · rw [assemble_hole, assemble_hole, replaceAll_hole hf hq hfq, hreplace]
      · rw [encloses_hole]
        rcases hqs with ⟨hnot, rfl⟩ | ⟨henc, hshrinks⟩
        · exact .inl ⟨hnot, rfl⟩
        · exact .inr ⟨henc, hshrinks.cons _⟩
    | plain d =>
      by_cases hhere : q.source <+: d :: assemble f ps
      · obtain ⟨mid, rest, hmid, hsource⟩ := eq_enclosed_of_prefix hf hq hhere
        have hrest : Written f rest := fun p hp => hf p (hmid ▸ List.mem_append_right _ hp)
        have hlt : rest.length < n := by
          rw [← hn, hmid, List.length_append]
          simp [enclosed]
        obtain ⟨qs, hreplace, hqs⟩ := ih rest.length hlt hrest rfl
        rw [hmid]
        refine ⟨.hole q :: qs, ?_, .inr ⟨⟨mid, ⟨[], rest, rfl⟩, hsource⟩, ?_⟩⟩
        · rw [assemble_append, assemble_enclosed, ← hsource, assemble_hole, Function.update_self,
            replaceAll_append_old (by simp [hsource, braced]), hreplace]
        · exact shrinks_enclosed hg (hqs.imp And.right And.right)
      · refine ⟨.plain d :: qs, ?_, ?_⟩
        · rw [assemble_plain, assemble_plain, replaceAll_cons hhere, hreplace]
        · rcases hqs with ⟨hnot, rfl⟩ | ⟨henc, hshrinks⟩
          · exact .inl ⟨fun h => (encloses_plain_cases h).elim hhere hnot, rfl⟩
          · exact .inr ⟨henc.cons _, hshrinks.cons _⟩

/-! ### All placeholders -/

variable (r : Registry) (c : Context) (text : List Char)

/-- The text that has all values written at once into the template. -/
def substituted : List Char := assemble (·.shown r c) (pieces text)

/-- What stands for a placeholder when the values of `done` have been written. -/
def stage (done : List Placeholder) (p : Placeholder) : List Char :=
  if p ∈ done then p.shown r c else p.source

/-- Double braces of the plain text enclose only placeholders of `done`, besides plain text, and
with the values of these all reads like `q`, which is written itself. -/
def CollisionAt (done : List Placeholder) (q : Placeholder) : Prop :=
  q.shown r c ≠ q.source ∧ ∃ mid, enclosed mid <:+: pieces text ∧
    (∀ p, .hole p ∈ mid → p ∈ done) ∧ q.source = braced (assemble (·.shown r c) mid)

/-- Text that has been written reads, with the plain text around it, like one of the placeholders
`rest`, which are still to be written, when its turn comes. -/
def Collides (done rest : List Placeholder) : Prop :=
  ∃ before q after, rest = before ++ q :: after ∧ CollisionAt r c text (done ++ before) q

/-- Text that has been written reads, with the plain text around it, like a placeholder that is
still to be written. -/
def Collision : Prop := Collides r c text [] (find text)

variable {r c text} {done rest : List Placeholder}

lemma stage_of_mem (h : p ∈ done) : stage r c done p = p.shown r c := if_pos h

lemma stage_of_not_mem (h : p ∉ done) : stage r c done p = p.source := if_neg h

lemma stage_append_singleton (q : Placeholder) : stage r c (done ++ [q]) =
    Function.update (stage r c done) q (q.shown r c) := by
  funext p
  by_cases hp : p = q
  · subst hp
    rw [Function.update_self, stage_of_mem (by simp)]
  · simp [stage, hp]

lemma written_stage (hd : ∀ p ∈ find text, p.PlainDates r c)
    (hps : ∀ p, .hole p ∈ ps → p ∈ find text) : Written (stage r c done) ps := by
  intro p hp
  have hproper := proper_of_mem_find (hps p hp)
  refine ⟨hproper, ?_⟩
  rw [stage]
  split
  · exact hproper.shown_cases (hd p (hps p hp))
  · exact .inl rfl

lemma encloses_stage_iff (hq : q.Proper) : Encloses (stage r c done) q (pieces text) ↔
    ∃ mid, enclosed mid <:+: pieces text ∧ (∀ p, .hole p ∈ mid → p ∈ done) ∧
      q.source = braced (assemble (·.shown r c) mid) := by
  refine exists_congr fun mid => and_congr_right fun hmid => ⟨fun hsource => ?_, ?_⟩
  · obtain ⟨body, hbody, -, hbf⟩ := hq.source_eq
    obtain rfl : assemble (stage r c done) mid = body := by
      rw [hbody] at hsource
      exact (braced_injective hsource).symm
    have hdone : ∀ p, .hole p ∈ mid → p ∈ done := by
      intro p hp
      by_contra hnot
      have hpieces : .hole p ∈ pieces text := hmid.subset (by simp [enclosed, hp])
      obtain ⟨inner, hinner, -⟩ := (proper_of_mem_find (hole_mem_pieces.1 hpieces)).source_eq
      have h := braceFree_of_mem_assemble hbf hp
      rw [stage_of_not_mem hnot, hinner] at h
      exact absurd h (by simp [braced, isBrace])
    refine ⟨hdone, ?_⟩
    rw [hsource, assemble_congr fun p hp => stage_of_mem (hdone p hp)]
  · rintro ⟨hdone, hsource⟩
    rw [hsource, assemble_congr fun p hp => (stage_of_mem (hdone p hp)).symm]

lemma overwrite_stage (hd : ∀ p ∈ find text, p.PlainDates r c)
    (hps : ∀ p, .hole p ∈ ps → p ∈ find text) (hfind : find text = done ++ q :: rest) : ∃ qs,
    q.overwrite r c (assemble (stage r c done) ps) = assemble (stage r c (done ++ [q])) qs ∧
      ((¬ (q.shown r c ≠ q.source ∧ Encloses (stage r c done) q ps) ∧ qs = ps) ∨
        ((q.shown r c ≠ q.source ∧ Encloses (stage r c done) q ps) ∧
          Shrinks (·.shown r c) q ps qs)) := by
  have hmem : q ∈ find text := hfind ▸ List.mem_append_right _ List.mem_cons_self
  -- a placeholder is visited once, so it is not done yet
  have hq : q ∉ done := by
    have hnodup := List.Nodup.of_map _ (nodup_find text)
    rw [hfind, List.nodup_append] at hnodup
    exact fun hdone => hnodup.2.2 q hdone q List.mem_cons_self rfl
  have hsame : stage r c done q = q.source := stage_of_not_mem hq
  have hproper := proper_of_mem_find hmem
  rw [stage_append_singleton]
  rcases hproper.overwrite_cases (hd q hmem) (assemble (stage r c done) ps) with
    ⟨h, hdiffer, hbf⟩ | ⟨h, hshown⟩
  · obtain ⟨qs, hreplace, hqs⟩ := replaceAll_assemble (written_stage hd hps) hproper hsame hbf
    rw [h]
    refine ⟨qs, hreplace, hqs.imp (And.imp_left fun hnot h => hnot h.2) ?_⟩
    exact And.imp_left fun henc => ⟨hdiffer, henc⟩
  · refine ⟨ps, ?_, .inl ⟨fun hdiffer => hdiffer.1 hshown, rfl⟩⟩
    rw [h, hshown, ← hsame, Function.update_eq_self]

lemma opening_overwriteAll (hd : ∀ p ∈ find text, p.PlainDates r c)
    (hps : ∀ p, .hole p ∈ ps → p ∈ find text) (hfind : find text = done ++ rest) :
    opening (overwriteAll r c rest (assemble (stage r c done) ps)) ≤
      opening (assemble (·.shown r c) ps) := by
  induction rest generalizing done ps with
  | nil =>
    rw [List.append_nil] at hfind
    rw [overwriteAll_nil, assemble_congr fun p hp => stage_of_mem (hfind ▸ hps p hp)]
  | cons q rest ih =>
    obtain ⟨qs, hover, hqs⟩ := overwrite_stage hd hps hfind
    have hfind' : find text = (done ++ [q]) ++ rest := by simp [hfind]
    rw [overwriteAll_cons, hover]
    rcases hqs with ⟨-, rfl⟩ | ⟨-, hshrinks⟩
    · exact ih hps hfind'
    · have hmem : q ∈ find text := hfind ▸ List.mem_append_right _ List.mem_cons_self
      exact (ih (hshrinks.mem_find hmem hps) hfind').trans hshrinks.fewer.le

lemma not_collides_nil : ¬ Collides r c text done [] := by
  rintro ⟨before, q, after, h, -⟩
  cases before <;> cases h

lemma collides_cons : Collides r c text done (q :: rest) ↔
    CollisionAt r c text done q ∨ Collides r c text (done ++ [q]) rest := by
  constructor
  · rintro ⟨before, d, after, h, hat⟩
    cases before with
    | nil =>
      cases h
      exact .inl (by simpa using hat)
    | cons b before =>
      cases h
      exact .inr ⟨before, d, after, rfl, by simpa using hat⟩
  · rintro (hat | ⟨before, d, after, rfl, hat⟩)
    · exact ⟨[], q, rest, rfl, by simpa using hat⟩
    · exact ⟨q :: before, d, after, rfl, by simpa using hat⟩

lemma overwriteAll_cases (hd : ∀ p ∈ find text, p.PlainDates r c)
    (hfind : find text = done ++ rest) :
    (¬ Collides r c text done rest ∧
      overwriteAll r c rest (assemble (stage r c done) (pieces text)) = substituted r c text) ∨
    (Collides r c text done rest ∧
      opening (overwriteAll r c rest (assemble (stage r c done) (pieces text))) <
        opening (substituted r c text)) := by
  have hps : ∀ p, .hole p ∈ pieces text → p ∈ find text := fun p => hole_mem_pieces.1
  induction rest generalizing done with
  | nil =>
    rw [List.append_nil] at hfind
    exact .inl ⟨not_collides_nil, assemble_congr fun p hp => stage_of_mem (hfind ▸ hps p hp)⟩
  | cons q rest ih =>
    have hfind' : find text = (done ++ [q]) ++ rest := by simp [hfind]
    have hmem : q ∈ find text := hfind ▸ List.mem_append_right _ List.mem_cons_self
    have hat : CollisionAt r c text done q ↔
        q.shown r c ≠ q.source ∧ Encloses (stage r c done) q (pieces text) := by
      rw [CollisionAt, encloses_stage_iff (proper_of_mem_find hmem)]
    obtain ⟨qs, hover, hqs⟩ := overwrite_stage hd hps hfind
    rw [overwriteAll_cons, hover, collides_cons, hat]
    rcases hqs with ⟨hnot, rfl⟩ | ⟨henc, hshrinks⟩
    · simp only [hnot, false_or]
      exact ih hfind'
    · -- from here on the pieces are no longer those of the text, and only braces are counted
      have hfound := hshrinks.mem_find hmem hps
      exact .inr ⟨.inl henc, (opening_overwriteAll hd hfound hfind').trans_lt hshrinks.fewer⟩

lemma render_cases {cs : List Char} (hd : ∀ p ∈ find text, p.PlainDates r c)
    (h : (render r c text).2 = .ok cs) :
    (¬ Collision r c text ∧ cs = substituted r c text) ∨
      (Collision r c text ∧ cs ≠ substituted r c text) := by
  rw [render_eq] at h
  obtain ⟨found, hfound, h⟩ := bind_eq_ok.1 h
  obtain ⟨-, rfl⟩ := resolveAll_eq_ok.1 hfound
  have hstart : assemble (stage r c []) (pieces text) = text := by
    rw [assemble_congr fun p _ => stage_of_not_mem List.not_mem_nil, assemble_pieces]
  have hrun := overwriteAll_cases hd (List.nil_append (find text)).symm
  rw [hstart, ← fill_eq_overwriteAll (ofFault_eq_ok.1 h)] at hrun
  refine hrun.imp_right (And.imp_right ?_)
  rintro hlt rfl
  exact lt_irrefl _ hlt

/-- **Rendering is one substitution, unless there is a collision.** Let no date that is written by
the default format have a brace. What a template renders to is the template with every value
written in place of its placeholder and nothing else changed, exactly if no text that has been
written reads like a placeholder that is still to be written. -/
theorem render_eq_substituted_iff {cs : List Char} (hd : ∀ p ∈ find text, p.PlainDates r c)
    (h : (render r c text).2 = .ok cs) :
    cs = substituted r c text ↔ ¬ Collision r c text := by
  rcases render_cases hd h with ⟨hnot, heq⟩ | ⟨hcollision, hne⟩
  · exact iff_of_true heq hnot
  · exact iff_of_false hne (not_not_intro hcollision)

/-- A placeholder with double braces around it, and another placeholder. -/
def nested (a b : String) : List Char := braced (braced a.toList) ++ ' ' :: braced b.toList

/-- A registry of one day with one series, which has no value. -/
def oneDay : Registry :=
  let days : Registry := { axis := [(Date.of? 2024 6 1).get (by decide)] }
  { days with members := [days.blankSeries 1 none .number false] }

/-- What is left of the braces is no placeholder of the template. -/
theorem render_eq_substituted_iff_nested :
    (render oneDay {} (nested "1" "2")).2 = .ok (braced "1.0".toList ++ " 2.0".toList) ∧
      ¬ Collision oneDay {} (nested "1" "2") := by
  have hrender : (render oneDay {} (nested "1" "2")).2 =
      .ok (braced "1.0".toList ++ " 2.0".toList) := by decide +kernel
  have hsame : braced "1.0".toList ++ " 2.0".toList =
      substituted oneDay {} (nested "1" "2") := by decide +kernel
  exact ⟨hrender, (render_eq_substituted_iff (fun p _ => plainDates_of_braceFree (by decide))
    hrender).1 hsame⟩

/-- A context with a first day, whose format writes every date as a placeholder. -/
def disguised : Context where
  dateFormat := String.ofList ('[' :: braced ['2'] ++ [']'])
  startDate := Date.of? 2024 6 1

/-- Text that has been written can be written over: here a value in stray braces, and a date
whose format has braces. -/
theorem render_ne_substituted :
    ((render oneDay {} (nested "1" "1.0")).2 = .ok "1.0 1.0".toList ∧
      substituted oneDay {} (nested "1" "1.0") = braced "1.0".toList ++ " 1.0".toList) ∧
    ((render oneDay disguised (braced "startDate()".toList ++ braced ['2'])).2 =
        .ok "2.02.0".toList ∧
      substituted oneDay disguised (braced "startDate()".toList ++ braced ['2']) =
        braced ['2'] ++ "2.0".toList) := by
  refine ⟨⟨?_, ?_⟩, ?_, ?_⟩ <;> decide +kernel

end Daybook.Template
