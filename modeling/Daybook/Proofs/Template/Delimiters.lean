import Daybook.Proofs.Template.Lint
import Daybook.Proofs.Template.Substitution
import Daybook.Proofs.Template.Validate

/-!
Counting delimiters. Every placeholder has one pair of opening braces and one of closing ones; a
text with no more pairs than placeholders has no two adjacent braces of a kind in its plain text.
What such a template renders to has none either, and is left alone when it is rendered again.
-/

namespace Daybook

open Text

/-! ### Pairs of braces and placeholders -/

lemma Text.countPair_braced {a : Char} (ha : isBrace a = true) {body t : List Char}
    (hbody : BraceFree body) : countPair a a (braced body ++ t) = countPair a a t + 1 := by
  have hnot : a ∉ body := fun hmem => by rw [hbody a hmem] at ha; cases ha
  rw [isBrace, Bool.or_eq_true, beq_iff_eq, beq_iff_eq] at ha
  rcases ha with rfl | rfl
  · have hsplit : braced body ++ t =
        '\x7b' :: '\x7b' :: ((body ++ ['\x7d', '\x7d']) ++ t) := by simp [braced]
    rw [hsplit, countPair_pair, countPair_append (by simpa using hnot)]
  · have hsplit : braced body ++ t =
        ('\x7b' :: '\x7b' :: body) ++ '\x7d' :: '\x7d' :: t := by simp [braced]
    rw [hsplit, countPair_append (by simpa using hnot), countPair_pair]

namespace Template

open Placeholder

variable {f : Placeholder → List Char} {ps : List Piece} {a : Char}

/-- No two of these characters stand together in the plain text. -/
def Apart (a : Char) (ps : List Piece) : Prop := ¬ [.plain a, .plain a] <:+: ps

lemma Apart.tail {x : Piece} (h : Apart a (x :: ps)) : Apart a ps := fun hp =>
  h (List.infix_cons hp)

lemma holes_le_countPair (ha : isBrace a = true) (hps : ∀ p, .hole p ∈ ps → p.Proper) :
    (holes ps).length ≤ countPair a a (assemble (·.source) ps) := by
  induction ps with
  | nil => exact Nat.zero_le _
  | cons x ps ih =>
    have hrest := ih fun p hp => hps p (List.mem_cons_of_mem x hp)
    cases x with
    | plain c => exact hrest.trans (countPair_cons_bounds c _).1
    | hole p =>
      obtain ⟨body, hbody, -, hbf⟩ := (hps p List.mem_cons_self).source_eq
      rw [holes_hole, List.length_cons, assemble_hole, hbody, countPair_braced ha hbf]
      omega

lemma apart_of_countPair_le (ha : isBrace a = true) (hps : ∀ p, .hole p ∈ ps → p.Proper)
    (h : countPair a a (assemble (·.source) ps) ≤ (holes ps).length) : Apart a ps := by
  induction ps with
  | nil => exact fun hp => by cases List.eq_nil_of_infix_nil hp
  | cons x ps ih =>
    have hproper : ∀ p, .hole p ∈ ps → p.Proper := fun p hp => hps p (List.mem_cons_of_mem x hp)
    intro hp
    rcases List.infix_cons_iff.1 hp with hp | hp
    · -- the pair counts once more than the placeholders behind it
      obtain ⟨rfl, rest, rfl⟩ := List.cons_prefix_cons.1 hp
      rw [List.singleton_append] at h hproper
      have hle := holes_le_countPair ha fun p hp => hproper p (List.mem_cons_of_mem _ hp)
      simp only [assemble_plain, countPair_pair, holes_plain] at h
      omega
    · refine ih hproper ?_ hp
      cases x with
      | plain c => exact (countPair_cons_bounds c _).1.trans h
      | hole p =>
        obtain ⟨body, hbody, -, hbf⟩ := (hps p List.mem_cons_self).source_eq
        rw [holes_hole, List.length_cons, assemble_hole, hbody, countPair_braced ha hbf] at h
        omega

lemma infix_of_infix_append {s t : List Char} (ha : isBrace a = true) (hs : BraceFree s)
    (h : [a, a] <:+: s ++ t) : [a, a] <:+: t := by
  induction s with
  | nil => exact h
  | cons c s ih =>
    obtain ⟨hc, hs⟩ := braceFree_cons.1 hs
    rcases List.infix_cons_iff.1 h with ⟨rest, hrest⟩ | h
    · rw [← (List.cons.inj hrest).1, ha] at hc
      cases hc
    · exact ih hs h

lemma exists_plain {t : List Char} (ha : isBrace a = true)
    (hf : ∀ p, .hole p ∈ ps → f p ≠ [] ∧ BraceFree (f p)) (h : assemble f ps = a :: t) :
    ∃ qs, ps = .plain a :: qs := by
  cases ps with
  | nil => cases h
  | cons x ps =>
    cases x with
    | plain d =>
      obtain ⟨rfl, -⟩ := List.cons.inj h
      exact ⟨ps, rfl⟩
    | hole p =>
      obtain ⟨hne, hbf⟩ := hf p List.mem_cons_self
      obtain ⟨d, ds, hd⟩ := List.exists_cons_of_ne_nil hne
      rw [assemble_hole, hd] at h
      rw [hd, braceFree_cons, (List.cons.inj h).1, ha] at hbf
      cases hbf.1

lemma Apart.not_infix (h : Apart a ps) (ha : isBrace a = true)
    (hf : ∀ p, .hole p ∈ ps → f p ≠ [] ∧ BraceFree (f p)) : ¬ [a, a] <:+: assemble f ps := by
  induction ps with
  | nil => exact fun hp => by cases List.eq_nil_of_infix_nil hp
  | cons x ps ih =>
    have hps : ∀ p, .hole p ∈ ps → f p ≠ [] ∧ BraceFree (f p) := fun p hp =>
      hf p (List.mem_cons_of_mem x hp)
    intro hp
    cases x with
    | hole p => exact ih h.tail hps (infix_of_infix_append ha (hf p List.mem_cons_self).2 hp)
    | plain c =>
      rw [assemble_plain] at hp
      rcases List.infix_cons_iff.1 hp with hp | hp
      · obtain ⟨rfl, t, ht⟩ := List.cons_prefix_cons.1 hp
        obtain ⟨qs, rfl⟩ := exists_plain ha hps ht.symm
        exact h ⟨[], qs, rfl⟩
      · exact ih h.tail hps hp

variable {r : Registry} {c : Context} {limit : Int} {text cs : List Char} {v : Validation}

lemma Apart.not_collision (h : Apart '\x7b' (pieces text)) : ¬ Collision r c text := by
  rintro ⟨before, q, after, -, -, mid, hmid, -⟩
  have hpair : [.plain '\x7b', .plain '\x7b'] <:+: enclosed mid :=
    ⟨[], mid ++ [.plain '\x7d', .plain '\x7d'], rfl⟩
  exact h (hpair.trans hmid)

lemma render_eq_self (h : ¬ ['\x7b', '\x7b'] <:+: cs) : (render r c cs).2 = .ok cs := by
  have hnone : Placeholder.find cs = [] := by
    refine List.eq_nil_iff_forall_not_mem.2 fun p hp => h ?_
    obtain ⟨body, hbody, -⟩ := (proper_of_mem_find hp).source_eq
    have hsource : p.source <:+: cs := by
      obtain ⟨before, after, hpieces⟩ := List.append_of_mem (hole_mem_pieces.2 hp)
      rw [← assemble_pieces cs, hpieces]
      exact ⟨assemble (·.source) before, assemble (·.source) after, by simp⟩
    have hpair : ['\x7b', '\x7b'] <:+: p.source :=
      hbody ▸ ⟨[], body ++ ['\x7d', '\x7d'], rfl⟩
    exact hpair.trans hsource
  rw [render_eq, resolve, hnone]
  rfl

/-! ### Templates without errors and warnings -/

lemma lint_errors_eq_nil (h : validate (some r) c limit text = .ok v) (hv : v.isValid = true) :
    (Lint.of limit text).errors = [] := by
  by_contra hne
  simp only [validate, ne_eq, hne, not_false_eq_true, if_true] at h
  cases h
  rw [Validation.isValid, List.isEmpty_iff, Lint.errorTexts, List.map_eq_nil_iff] at hv
  exact hne hv

lemma countPair_le_all (he : (Lint.of limit text).errors = [])
    (hw : (Lint.of limit text).warnings = []) (ha : isBrace a = true) :
    countPair a a text ≤ (Placeholder.all text).length := by
  have hbalance : ∀ o c, .unbalanced o c ∉ (Lint.of limit text).errors := by
    rw [he]
    exact fun o c => List.not_mem_nil
  have hquiet : (Lint.of limit text).Quiet := ⟨hbalance, hw⟩
  obtain ⟨hbalanced, hmatched⟩ := Lint.quiet_of.1 hquiet
  rw [← hbalanced, min_self] at hmatched
  rw [isBrace, Bool.or_eq_true, beq_iff_eq, beq_iff_eq] at ha
  rcases ha with rfl | rfl
  · exact hmatched
  · rw [hbalanced] at hmatched
    exact hmatched

lemma apart_pieces (he : (Lint.of limit text).errors = [])
    (hw : (Lint.of limit text).warnings = []) (ha : isBrace a = true) :
    Apart a (pieces text) := by
  refine apart_of_countPair_le ha (fun p => (scanned_pieces text).proper) ?_
  rw [assemble_pieces, holes_pieces]
  exact countPair_le_all he hw ha

/-- A placeholder that is not warned of has a number or a moment. -/
lemma isSome_resolved? {ps : List Placeholder} {p : Placeholder} (hw : unwritten r c ps = [])
    (hp : p ∈ ps) (hv : p.HasValue r c) : (p.resolved? r c).isSome = true := by
  obtain ⟨w, hval⟩ := hv
  have hnone := List.filterMap_eq_nil_iff.1 hw p hp
  rw [hval] at hnone
  rw [resolved?, hval]
  dsimp only at hnone ⊢
  split at hnone
  · rename_i hscalar
    rwa [Option.isSome_map, ← Value.isScalar.eq_def]
  · cases hnone

/-- A check without errors and warnings says that the text has none by itself and that every
placeholder has a number or a moment. -/
lemma clean_of_validate (h : validate (some r) c limit text = .ok v) (hv : v.isValid = true)
    (hw : v.warnings = []) : (Lint.of limit text).errors = [] ∧
      (Lint.of limit text).warnings = [] ∧
      ∀ p ∈ Placeholder.find text, (p.resolved? r c).isSome = true := by
  have he := lint_errors_eq_nil h hv
  have hvalues := (isValid_iff he h).1 hv
  obtain ⟨-, rfl⟩ := (validate_eq_ok he).1 h
  rw [filterMap_warning?, List.append_eq_nil_iff, List.map_eq_nil_iff] at hw
  exact ⟨he, hw.1, fun p hp => isSome_resolved? hw.2 hp (hvalues p hp)⟩

lemma of_validateAndRender_eq_ok (h : validateAndRender r c limit text = .ok (v, some (.ok cs))) :
    validate (some r) c limit text = .ok v ∧ v.isValid = true ∧ (render r c text).2 = .ok cs := by
  obtain ⟨u, hu, h⟩ := bind_eq_ok.1 h
  split at h
  · cases h
  · rename_i hvalid
    cases hr : (render r c text).2 with
    | error stop => cases stop <;> rw [hr] at h <;> cases h
    | ok ds =>
      rw [hr] at h
      cases h
      exact ⟨hu, by simpa using hvalid, rfl⟩

lemma braceFree_shown (hc : BraceFree c.dateFormat.toList) (h : (render r c text).2 = .ok cs)
    {p : Placeholder} (hp : p ∈ Placeholder.find text) (hr : (p.resolved? r c).isSome = true)
    (hne : p.formatted? r c ≠ some []) : p.shown r c ≠ [] ∧ BraceFree (p.shown r c) := by
  rw [render_eq] at h
  obtain ⟨found, hfound, h⟩ := bind_eq_ok.1 h
  obtain ⟨-, rfl⟩ := resolveAll_eq_ok.1 hfound
  obtain ⟨w, hw⟩ := Option.isSome_iff_exists.1 (isSome_formatted? (ofFault_eq_ok.1 h) hp hr)
  have hbf := (proper_of_mem_find hp).braceFree_formatted (plainDates_of_braceFree hc) hw
  rw [shown, hw]
  cases w with
  | nil => exact absurd hw hne
  | cons d ds => exact ⟨List.cons_ne_nil d ds, hbf⟩

/-- **A clean template leaves no delimiters.** Let the date format have no braces. If a template
is valid without warnings, and something is written for each of its placeholders, then what it
renders to has no two adjacent braces of a kind, and rendering it again changes nothing. -/
theorem no_delimiters_of_validateAndRender (hc : BraceFree c.dateFormat.toList)
    (h : validateAndRender r c limit text = .ok (v, some (.ok cs))) (hw : v.warnings = [])
    (hne : ∀ p ∈ Placeholder.find text, p.formatted? r c ≠ some []) :
    ¬ ['\x7b', '\x7b'] <:+: cs ∧ ¬ ['\x7d', '\x7d'] <:+: cs ∧ (render r c cs).2 = .ok cs := by
  obtain ⟨hv, hvalid, hrender⟩ := of_validateAndRender_eq_ok h
  obtain ⟨he, hlint, hall⟩ := clean_of_validate hv hvalid hw
  have hshown : ∀ p, .hole p ∈ pieces text → p.shown r c ≠ [] ∧ BraceFree (p.shown r c) := by
    intro p hp
    have hfind := hole_mem_pieces.1 hp
    exact braceFree_shown hc hrender hfind (hall p hfind) (hne p hfind)
  have hopen : Apart '\x7b' (pieces text) := apart_pieces he hlint rfl
  have hclosed : Apart '\x7d' (pieces text) := apart_pieces he hlint rfl
  have hcs : cs = substituted r c text := by
    rcases render_cases (fun p _ => plainDates_of_braceFree hc) hrender with ⟨-, heq⟩ | ⟨hcol, -⟩
    · exact heq
    · exact absurd hcol hopen.not_collision
  have hnone : ¬ ['\x7b', '\x7b'] <:+: cs := hcs ▸ hopen.not_infix rfl hshown
  exact ⟨hnone, hcs ▸ hclosed.not_infix rfl hshown, render_eq_self hnone⟩

/-- A placeholder with single braces close around it, and another one. -/
def snug : List Char := '\x7b' :: braced ['1'] ++ '\x7d' :: braced ['2']

theorem no_delimiters_of_validateAndRender_snug :
    ∃ v, validateAndRender oneDay {} 100 snug = .ok (v, some (.ok "\x7b1.0\x7d2.0".toList)) ∧
      v.warnings = [] ∧ (render oneDay {} "\x7b1.0\x7d2.0".toList).2 =
        .ok "\x7b1.0\x7d2.0".toList := by
  have h : validateAndRender oneDay {} 100 snug = .ok
      ({ errors := [], warnings := [], placeholders := [braced ['1'], braced ['2']] },
        some (.ok "\x7b1.0\x7d2.0".toList)) := rfl
  exact ⟨_, h, rfl, (no_delimiters_of_validateAndRender (by decide) h rfl (by decide +kernel)).2.2⟩

end Template

end Daybook
