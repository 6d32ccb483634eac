import Daybook.Proofs.Number.Reading
import Daybook.Proofs.Reading.Words

/-!
Decimals as words. A numeral is cut off a text as one word, and its value there is the one that
it has when it stands alone.
-/

namespace Daybook.Number.Numeral

open Text

variable {n : Numeral} {rest : List Char}

lemma isCommonChar_of_mem (hn : n.Formed) : ∀ c ∈ n.chars, Token.isCommonChar c = true := by
  intro c hc
  rcases mem_chars hn hc with h | h
  · have hbounds := bounds_of_isDigit h
    exact decide_eq_true (by omega)
  · have hothers : ['.', 'e', '+', '-'].all Token.isCommonChar = true := by decide
    exact List.all_eq_true.1 hothers c h

lemma digitFault?_chars (hn : n.Formed) : Token.digitFault? n.chars = none := by
  have h : n.chars.dropWhile Token.isCommonChar = [] := by
    have hdrop : (n.chars ++ []).dropWhile Token.isCommonChar = [] :=
      List.dropWhile_append_of_pos (isCommonChar_of_mem hn)
    rwa [List.append_nil] at hdrop
  rw [Token.digitFault?, h]

lemma float?_chars (hn : n.Formed) (hdecimal : n.fraction ≠ [] ∨ n.exponent ≠ none)
    (h : Ends rest) :
    Token.float? (n.chars ++ rest) = some (.ok (.float (n.value false)), rest) := by
  have hrun := digitRun_chars hn h
  have hexp := takeExponent_text hn.exponent h
  have hnil : digitValues [] = [] := rfl
  rw [Token.float?, hrun]
  -- the whole part is there, and so is the fraction or the exponent
  cases hw : digitValues n.whole with
  | nil => exact absurd (List.map_eq_nil_iff.1 hw) hn.whole_ne
  | cons v vs =>
    cases hf : n.fraction with
    | nil =>
      rcases he : n.exponent with _ | ⟨s, ds⟩
      · exact absurd hdecimal (by simp [hf, he])
      · rw [he, exponentText, List.cons_append, List.cons_append] at hexp
        have hlen : rest.length ≠ ds.length + rest.length + 1 + 1 := by omega
        simp [fractionText, exponentText, hexp, hlen, digitFault?_chars hn, value, hw, hf, he, hnil]
    | cons d ds =>
      have hfrac := digitRun_digits hn.fraction (stops_exponent n.exponent h)
      rw [hf] at hfrac
      have hvalues : digitValues (d :: ds) = (d.toNat - 48) :: digitValues ds := rfl
      rw [hvalues, List.cons_append] at hfrac
      simp [fractionText, hfrac, hexp, digitFault?_chars hn, value, hw, hf, hvalues]

lemma scan_chars (hn : n.Formed) (hdecimal : n.fraction ≠ [] ∨ n.exponent ≠ none)
    (h : Ends rest) :
    Token.scan false (n.chars ++ rest) = some (.ok (.float (n.value false)), rest) := by
  rw [Token.scan, if_neg Bool.false_ne_true, float?_chars hn hdecimal h]
  rfl

end Daybook.Number.Numeral

namespace Daybook.Token

open Number Text

lemma lexes_float {x : Float} (hx : Reads x) : (float x).Lexes := by
  obtain ⟨m, e, hparts⟩ := hx.unsigned
  obtain ⟨n, hn, hchars⟩ := exists_chars hparts
  have hvalue : n.value false = x := by
    have h := hx.reads
    rw [hchars] at h
    exact Option.some.inj ((Numeral.ofText?_chars hn.toFormed false).symm.trans h)
  obtain ⟨c, cs, hcs, hc⟩ := Numeral.head_chars hn.toFormed
  have hspelling : (float x).spelling = n.chars := hchars
  refine ⟨?_, ?_, fun b rest _ => ?_, fun b rest hb => ?_⟩ <;> rw [hspelling]
  · rw [hcs]
    nofun
  · exact Numeral.isBlank_of_mem hn.toFormed
  · rw [hcs]
    refine printEnd?_of_ne ?_ ?_ <;> rintro rfl <;> cases hc
  · rw [Numeral.scan_chars hn.toFormed hn.decimal (Numeral.ends_blank hb), hvalue]

end Daybook.Token
