import Mathlib.Data.List.Infix
import Mathlib.Data.Option.Basic
import Daybook.Expr.Lexer
import Daybook.Proofs.Text.Occurrences

/-!
Nothing of a text is passed over. The words that are cut off up to the end of a statement cover
the text before that end: each stands where the one before it stopped, with blanks in between.
-/

namespace Daybook

open Text

variable {c : Char} {cs rest rest' : List Char}

/-! ### Ends of a text -/

/-- The rest is what is left of a text behind its first character or later. -/
def Passes (cs rest : List Char) : Prop := ∃ c cs', cs = c :: cs' ∧ rest <:+ cs'

lemma passes_cons (h : rest <:+ cs) : Passes (c :: cs) rest := ⟨c, cs, rfl, h⟩

lemma Passes.suffix (h : Passes cs rest) : rest <:+ cs := by
  obtain ⟨c, cs', rfl, hrest⟩ := h
  exact hrest.trans (List.suffix_cons c cs')

lemma Passes.trans_suffix (h : Passes cs rest) (hrest : rest' <:+ rest) : Passes cs rest' := by
  obtain ⟨c, cs', rfl, hcs⟩ := h
  exact passes_cons (hrest.trans hcs)

lemma Passes.exists_word (h : Passes cs rest) : ∃ w, w ≠ [] ∧ cs = w ++ rest := by
  obtain ⟨c, cs', rfl, w, rfl⟩ := h
  exact ⟨c :: w, List.cons_ne_nil c w, rfl⟩

/-! ### Numbers -/

variable {digit : Char → Option ℕ} {ds : List ℕ} {t : Token}

lemma Number.digitRun_passes (digit : Char → Option ℕ) (cs : List Char) :
    digitRun digit cs = ([], cs) ∨ Passes cs (digitRun digit cs).2 := by
  have hsuffix : ∀ {cs}, digitRun digit cs = ([], cs) ∨ Passes cs (digitRun digit cs).2 →
      (digitRun digit cs).2 <:+ cs := by
    rintro cs (h | h)
    · rw [h]
    · exact h.suffix
  fun_induction digitRun digit cs with
  | case1 | case2 => exact .inl rfl
  | case3 => exact .inr (passes_cons (List.suffix_refl _))
  | case4 c d _ rest ds r _ hrest _ ih =>
    have hr : r <:+ rest := by
      have h := hsuffix ih
      rwa [hrest] at h
    exact .inr (passes_cons (hr.trans (List.suffix_cons '_' rest)))
  | case5 c cs d _ next _ ih => exact .inr (passes_cons (hsuffix ih))

lemma Number.digitRun_suffix (digit : Char → Option ℕ) (cs : List Char) :
    (digitRun digit cs).2 <:+ cs := by
  rcases digitRun_passes digit cs with h | h
  · rw [h]
  · exact h.suffix

lemma Number.takeSign_suffix (cs : List Char) : (takeSign cs).2 <:+ cs := by
  unfold takeSign
  split
  · exact List.suffix_cons _ _
  · exact List.suffix_cons _ _
  · exact List.suffix_refl _

lemma Number.takeExponent_suffix (digit : Char → Option ℕ) (cs : List Char) :
    (takeExponent digit cs).2 <:+ cs := by
  unfold takeExponent
  split
  · rename_i c rest
    split
    · have hrun := digitRun_suffix digit (takeSign rest).2
      dsimp only
      split
      · exact List.suffix_refl _
      · rename_i ds r _ hr
        rw [hr] at hrun
        exact (hrun.trans (takeSign_suffix rest)).trans (List.suffix_cons c rest)
    · exact List.suffix_refl _
  · exact List.suffix_refl _

namespace Token

def isWord : Token → Bool
  | .name _ | .int _ | .float _ | .text _ | .symbol _ => true
  | _ => false

lemma passes_of_fraction {r : List Char} {whole : List ℕ} {x : List ℕ × List Char}
    (hr : Passes cs r) (hx : x.2 <:+ r)
    (h : (if x.1 = [] ∧ (Number.takeExponent decimal? x.2).2.length = x.2.length then none
      else
        match digitFault? (cs.take (cs.length - (Number.takeExponent decimal? x.2).2.length)) with
        | some f => some (.error (WordFault.foreignDigit f), (Number.takeExponent decimal? x.2).2)
        | none => some (.ok (.float (Number.ofDigitLists false whole x.1
            (Number.takeExponent decimal? x.2).1)), (Number.takeExponent decimal? x.2).2)) =
      some (Except.ok t, rest)) :
    t.isWord = true ∧ Passes cs rest := by
  split at h
  · cases h
  · split at h
    · cases h
    · cases h
      exact ⟨rfl, hr.trans_suffix ((Number.takeExponent_suffix _ _).trans hx)⟩

lemma float?_passes (h : float? cs = some (.ok t, rest)) : t.isWord = true ∧ Passes cs rest := by
  unfold float? at h
  split at h
  · cases h
  · rename_i whole r hne hwhole
    have hpass : Passes cs r := by
      rcases Number.digitRun_passes decimal? cs with hrun | hrun
      · rw [hrun] at hwhole
        cases hwhole
        exact absurd rfl hne
      · rwa [hwhole] at hrun
    -- a point without digits behind it stays where it is
    refine passes_of_fraction hpass ?_ h
    split
    · rename_i r
      have hrun := Number.digitRun_suffix decimal? r
      split
      · exact List.suffix_refl _
      · rename_i hds
        rw [hds] at hrun
        exact hrun.trans (List.suffix_cons '.' r)
    · exact List.suffix_refl _

lemma looseRun_suffix (digit : Char → Option ℕ) (cs : List Char) :
    (looseRun digit cs).2 <:+ cs := by
  fun_induction looseRun digit cs with
  | case1 | case2 | case4 => exact List.suffix_refl _
  | case3 c cs d _ ds r hr ih =>
    rw [hr] at ih
    exact ih.trans ((List.suffix_cons c cs).trans (List.suffix_cons '_' _))
  | case5 c cs _ d _ ds r hr ih =>
    rw [hr] at ih
    exact ih.trans (List.suffix_cons c cs)

lemma basedInt?_suffix (h : basedInt? cs = some (.ok t, rest)) : t.isWord = true ∧ rest <:+ cs := by
  unfold basedInt? at h
  split at h
  · rename_i c cs
    split at h
    · cases h
    · rename_i base digit _
      have hrun := looseRun_suffix digit cs
      split at h
      · cases h
      · rename_i hds
        rw [hds] at hrun
        cases h
        exact ⟨rfl, hrun.trans (List.suffix_cons c cs)⟩
  · cases h

lemma int?_passes (h : int? cs = some (.ok t, rest)) : t.isWord = true ∧ Passes cs rest := by
  unfold int? at h
  split at h
  · rename_i cs
    split at h
    · rename_i hbased
      obtain ⟨ht, hrest⟩ := basedInt?_suffix (hbased.trans h)
      exact ⟨ht, passes_cons hrest⟩
    · dsimp only at h
      split at h
      · cases h
      · cases h
        exact ⟨rfl, passes_cons (looseRun_suffix _ _)⟩
  · rename_i c cs _
    split at h
    · cases h
    · dsimp only at h
      split at h
      · cases h
      · cases h
        exact ⟨rfl, passes_cons (looseRun_suffix _ _)⟩
  · cases h

/-! ### Names, strings and symbols -/

lemma name?_passes (h : name? cs = some (.ok t, rest)) : t.isWord = true ∧ Passes cs rest := by
  unfold name? at h
  dsimp only at h
  split at h
  · cases h
  · rename_i hne
    split at h
    · cases h
      refine ⟨rfl, ?_⟩
      cases cs with
      | nil => exact absurd rfl hne
      | cons c cs =>
        rw [List.takeWhile_cons] at hne
        split at hne
        · rename_i hc
          rw [List.dropWhile_cons_of_pos hc]
          exact passes_cons (List.dropWhile_suffix _)
        · exact absurd rfl hne
    · cases h

lemma rawString?_suffix {q : Char} {body : List Char} (h : rawString? q cs = some (body, rest)) :
    rest <:+ cs := by
  fun_induction rawString? q cs generalizing body with
  | case1 => cases h
  | case2 c cs ih =>
    obtain ⟨⟨body', r⟩, hbody, h⟩ := Option.map_eq_some_iff.1 h
    cases h
    exact (ih hbody).trans ((List.suffix_cons c cs).trans (List.suffix_cons _ _))
  | case3 =>
    cases h
    exact List.suffix_cons _ _
  | case4 => cases h
  | case5 c cs _ _ _ ih =>
    obtain ⟨⟨body', r⟩, hbody, h⟩ := Option.map_eq_some_iff.1 h
    cases h
    exact (ih hbody).trans (List.suffix_cons c cs)

lemma string?_passes (h : string? cs = some (.ok t, rest)) : t.isWord = true ∧ Passes cs rest := by
  unfold string? at h
  split at h
  · split at h
    · obtain ⟨⟨body, r⟩, hbody, h⟩ := Option.map_eq_some_iff.1 h
      dsimp only at h
      split at h
      · cases h
        exact ⟨rfl, passes_cons (rawString?_suffix hbody)⟩
      · cases h
    · cases h
  · cases h

lemma symbol?_passes {s : Symbol} (h : symbol? cs = some (s, rest)) : Passes cs rest := by
  have htext : ∀ s : Symbol, s.text.toList ≠ [] := by
    intro s
    cases s <;> decide
  obtain ⟨u, -, hu⟩ := List.exists_of_findSome?_eq_some h
  obtain ⟨r, hr, hrest⟩ := Option.map_eq_some_iff.1 hu
  cases hrest
  obtain ⟨c, w, hw⟩ := List.exists_cons_of_ne_nil (htext s)
  rw [after?_eq_some_iff, hw] at hr
  exact ⟨c, w ++ rest, hr, w, rfl⟩

/-- **A word that a text begins with is some of its characters.** -/
lemma scan_passes {afterDot : Bool} (h : scan afterDot cs = some (.ok t, rest)) :
    t.isWord = true ∧ Passes cs rest := by
  unfold scan at h
  rcases (Option.orElse_eq_some _ _ _).1 h with h | ⟨-, h⟩
  · split at h
    · cases h
    · exact float?_passes h
  rcases (Option.orElse_eq_some _ _ _).1 h with h | ⟨-, h⟩
  · exact int?_passes h
  rcases (Option.orElse_eq_some _ _ _).1 h with h | ⟨-, h⟩
  · exact name?_passes h
  rcases (Option.orElse_eq_some _ _ _).1 h with h | ⟨-, h⟩
  · exact string?_passes h
  · obtain ⟨⟨s, r⟩, hs, h⟩ := Option.map_eq_some_iff.1 h
    cases h
    exact ⟨rfl, symbol?_passes hs⟩

/-! ### Words on end -/

def isDot : Token → Bool
  | .symbol s => s == .dot
  | _ => false

/-- The words tile the text, which stands before `behind`: there are blanks and words, each word
being the one that the text begins with where it stands. A decimal may not follow a point. -/
inductive Tiles (behind : List Char) : Bool → List Token → List Char → Prop
  | nil (afterDot : Bool) : Tiles behind afterDot [] []
  | blank {afterDot : Bool} {ts : List Token} {c : Char} {cs : List Char} : isBlank c = true →
      Tiles behind false ts cs → Tiles behind afterDot ts (c :: cs)
  | word {afterDot : Bool} {t : Token} {ts : List Token} {w cs : List Char} : w ≠ [] →
      scan afterDot (w ++ (cs ++ behind)) = some (.ok t, cs ++ behind) →
      Tiles behind t.isDot ts cs → Tiles behind afterDot (t :: ts) (w ++ cs)

/-- Up to the end of a print statement the text is tiled by its words. -/
theorem cut_tiles {total n : ℕ} {afterDot : Bool} {due : List Symbol} {ts : List Token}
    (h : cut printEnd? .printEnd total n afterDot due cs = (ts, rest)) (hend : .printEnd ∈ ts) :
    ∃ us cs' behind, ts = us ++ [.printEnd] ∧ cs = cs' ++ behind ∧ printEnd? behind = some rest ∧
      Tiles behind afterDot us cs' ∧ ∀ t ∈ us, t.isWord = true := by
  induction n generalizing afterDot due cs ts with
  | zero =>
    cases h
    cases hend
  | succ n ih =>
    cases cs with
    | nil =>
      cases h
      cases hend
    | cons c cs =>
      -- the words behind the next one tile it, and so they do with the next one
      have hword : ∀ {t : Token} {r : List Char} {dot : Bool} {due : List Symbol},
          scan afterDot (c :: cs) = some (.ok t, r) → t.isDot = dot →
          (t :: (cut printEnd? .printEnd total n dot due r).1,
            (cut printEnd? .printEnd total n dot due r).2) = (ts, rest) →
          ∃ us cs' behind, ts = us ++ [.printEnd] ∧ c :: cs = cs' ++ behind ∧
            printEnd? behind = some rest ∧ Tiles behind afterDot us cs' ∧
            ∀ t ∈ us, t.isWord = true := by
        intro t r dot due hscan hdot h
        cases h
        obtain ⟨ht, hpass⟩ := scan_passes hscan
        obtain ⟨w, hw, hcs⟩ := hpass.exists_word
        have hend' : .printEnd ∈ (cut printEnd? .printEnd total n dot due r).1 := by
          rcases List.mem_cons.1 hend with rfl | h
          · cases ht
          · exact h
        obtain ⟨us, cs', behind, hus, rfl, hbehind, htiles, hwords⟩ := ih rfl hend'
        subst hdot
        rw [hcs] at hscan ⊢
        refine ⟨t :: us, w ++ cs', behind, by rw [hus]; rfl, (List.append_assoc ..).symm, hbehind,
          .word hw hscan htiles, ?_⟩
        exact List.forall_mem_cons.2 ⟨ht, hwords⟩
      unfold cut at h
      split at h
      · rename_i hr
        cases h
        have hprint : printEnd? (c :: cs) = some rest := by
          split at hr
          · exact hr
          · cases hr
        exact ⟨[], [], c :: cs, rfl, rfl, hprint, .nil afterDot, nofun⟩
      · split at h
        · obtain ⟨us, cs', behind, hus, rfl, hbehind, htiles, hwords⟩ := ih h hend
          exact ⟨us, c :: cs', behind, hus, rfl, hbehind, .blank ‹_› htiles, hwords⟩
        · split at h
          · cases h
            simp at hend
          · cases h
            simp at hend
          · split at h
            · cases h
              simp at hend
            · exact hword ‹_› rfl h
          · rename_i t _ hsymbol hscan
            have hdot : t.isDot = false := by
              cases t with
              | symbol s => exact absurd rfl (hsymbol s)
              | _ => rfl
            exact hword hscan hdot h

end Token

end Daybook
