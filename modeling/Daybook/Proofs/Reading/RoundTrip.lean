import Daybook.Proofs.Reading.Cut
import Daybook.Proofs.Reading.Levels

/-!
Reading undoes printing. A printed expression is read back as it was, whatever blanks stand
between its words; line ends among the blanks are made one of a kind first, which leaves the
words apart.
-/

namespace Daybook

open Text

variable {ts : List Token} {cs gap : List Char} {e : Expr}

/-! ### Blanks -/

lemma Spaced.head_not_blank (h : Spaced ts cs) (hts : ∀ t ∈ ts, t.Printed) :
    ∃ c r, cs = c :: r ∧ isBlank c = false := by
  have hword : ∀ t ∈ ts, ∃ c r, t.spelling = c :: r ∧ isBlank c = false := by
    intro t ht
    cases hs : t.spelling with
    | nil => exact absurd hs (hts t ht).lexes.ne_nil
    | cons c r => exact ⟨c, r, rfl, (hts t ht).lexes.isBlank c (by rw [hs]; exact List.mem_cons_self)⟩
  cases h with
  | last t => exact hword t List.mem_cons_self
  | cons t =>
    obtain ⟨c, r, hs, hc⟩ := hword t List.mem_cons_self
    exact ⟨c, _, by rw [hs]; rfl, hc⟩

lemma Spaced.last_not_blank (h : Spaced ts cs) (hts : ∀ t ∈ ts, t.Printed) :
    ∀ c, cs.getLast? = some c → isBlank c = false := by
  induction h with
  | last t =>
    intro c hc
    exact (hts t List.mem_cons_self).lexes.isBlank c (List.mem_of_getLast? hc)
  | @cons t ts gap cs _ _ h ih =>
    have hts' : ∀ u ∈ ts, u.Printed := fun u hu => hts u (List.mem_cons_of_mem t hu)
    obtain ⟨c, r, hcs, -⟩ := h.head_not_blank hts'
    intro d hd
    refine ih hts' d ?_
    rw [← hd, List.getLast?_append_of_ne_nil, List.getLast?_append_of_ne_nil] <;> simp [hcs]

lemma Spaced.trim_eq (h : Spaced ts cs) (hts : ∀ t ∈ ts, t.Printed) : trim cs = cs := by
  refine trim_eq_self (fun d hd => ?_) (h.last_not_blank hts)
  obtain ⟨c, r, rfl, hc⟩ := h.head_not_blank hts
  cases hd
  exact hc

namespace Expr

lemma unifyLineEnds_cons {c : Char} (hc : c ≠ '\r') :
    unifyLineEnds (c :: cs) = c :: unifyLineEnds cs := by
  rw [unifyLineEnds]
  · rintro r rfl
    exact absurd rfl hc
  · rintro rfl
    exact absurd rfl hc

lemma unifyLineEnds_word {w : List Char} (hw : ∀ c ∈ w, isBlank c = false) :
    unifyLineEnds (w ++ cs) = w ++ unifyLineEnds cs := by
  induction w with
  | nil => rfl
  | cons c w ih =>
    have hc : c ≠ '\r' := by
      rintro rfl
      exact absurd (hw _ List.mem_cons_self) (by decide)
    rw [List.cons_append, unifyLineEnds_cons hc, ih fun d hd => hw d (List.mem_cons_of_mem c hd)]
    rfl

lemma unifyLineEnds_return (h : ∀ r, cs ≠ '\n' :: r) :
    unifyLineEnds ('\r' :: cs) = '\n' :: unifyLineEnds cs := by
  rw [unifyLineEnds]
  exact fun r hr => h r hr

/-- A blank at the beginning of a text stays one, and after it comes the rest of the text or,
behind a line end of two characters, the rest of that. -/
lemma unifyLineEnds_blank {b : Char} (hb : isBlank b = true) (cs : List Char) :
    ∃ c, isBlank c = true ∧ (unifyLineEnds (b :: cs) = c :: unifyLineEnds cs ∨
      ∃ r, cs = '\n' :: r ∧ unifyLineEnds (b :: cs) = c :: unifyLineEnds r) := by
  by_cases hreturn : b = '\r'
  · subst hreturn
    by_cases hline : ∃ r, cs = '\n' :: r
    · obtain ⟨r, rfl⟩ := hline
      exact ⟨'\n', rfl, .inr ⟨r, rfl, by rw [unifyLineEnds]⟩⟩
    · exact ⟨'\n', rfl, .inl (unifyLineEnds_return fun r hr => hline ⟨r, hr⟩)⟩
  · exact ⟨b, hb, .inl (unifyLineEnds_cons hreturn)⟩

lemma unifyLineEnds_gap (hcs : ∀ r, cs ≠ '\n' :: r) (hgap : ∀ c ∈ gap, isBlank c = true) :
    ∃ gap', (gap ≠ [] → gap' ≠ []) ∧ (∀ c ∈ gap', isBlank c = true) ∧
      unifyLineEnds (gap ++ cs) = gap' ++ unifyLineEnds cs := by
  -- on the length, since one line end may take two characters
  induction hn : gap.length using Nat.strongRecOn generalizing gap with
  | ind n ih =>
    cases gap with
    | nil => exact ⟨[], fun h => absurd rfl h, nofun, rfl⟩
    | cons b gap =>
      rw [List.length_cons] at hn
      obtain ⟨hb, htail⟩ := List.forall_mem_cons.1 hgap
      obtain ⟨c, hc, h | ⟨r, hr, h⟩⟩ := unifyLineEnds_blank hb (gap ++ cs)
      · obtain ⟨gap', -, hblank, heq⟩ := ih gap.length (by omega) htail rfl
        refine ⟨c :: gap', nofun, List.forall_mem_cons.2 ⟨hc, hblank⟩, ?_⟩
        rw [List.cons_append, h, heq]
        rfl
      · cases gap with
        | nil => exact absurd hr (hcs r)
        | cons d gap =>
          rw [List.length_cons] at hn
          cases hr
          obtain ⟨gap', -, hblank, heq⟩ :=
            ih gap.length (by omega) (List.forall_mem_cons.1 htail).2 rfl
          refine ⟨c :: gap', nofun, List.forall_mem_cons.2 ⟨hc, hblank⟩, ?_⟩
          rw [List.cons_append, h]
          exact congrArg (c :: ·) heq

end Expr

lemma Spaced.unifyLineEnds (h : Spaced ts cs) (hts : ∀ t ∈ ts, t.Printed) :
    Spaced ts (Expr.unifyLineEnds cs) := by
  induction h with
  | last t =>
    have hword : Expr.unifyLineEnds (t.spelling ++ []) = t.spelling ++ [] :=
      Expr.unifyLineEnds_word (hts t List.mem_cons_self).lexes.isBlank
    rw [List.append_nil] at hword
    rw [hword]
    exact .last t
  | @cons t ts gap cs hne hgap h ih =>
    have hts' : ∀ u ∈ ts, u.Printed := fun u hu => hts u (List.mem_cons_of_mem t hu)
    have hline : ∀ r, cs ≠ '\n' :: r := by
      rintro r rfl
      obtain ⟨c, r, hcr, hc⟩ := h.head_not_blank hts'
      cases hcr
      cases hc
    obtain ⟨gap', hne', hgap', heq⟩ := Expr.unifyLineEnds_gap hline hgap
    rw [Expr.unifyLineEnds_word (hts t List.mem_cons_self).lexes.isBlank, heq]
    exact .cons t (hne' hne) hgap' (ih hts')

/-! ### Reading -/

namespace Expr

lemma words_read (he : e.Printable) (h : Spaced e.tokens cs) :
    words cs = (e.tokens ++ [.printEnd], []) :=
  Token.cut_spaced (h.unifyLineEnds he.printed) he.printed (balanced_tokens e [])
    (Nat.lt_succ_self _)

/-- **Reading undoes printing.** The text of an expression, with parentheses where they are
needed and blanks between the words, is read as that expression. -/
theorem read_of_spaced (he : e.Printable) (h : Spaced e.tokens cs) : read cs = .ok e := by
  obtain ⟨c, r, hcs, -⟩ := h.head_not_blank he.printed
  have hne : cs ≠ [] := by rw [hcs]; nofun
  have htree : tree cs = .ok e.toTree := by
    have hbehind : Markup.words (size cs) [] = [] := rfl
    rw [tree, words_read he h]
    simp only [hbehind, List.append_nil, statement_read he, if_true]
  rw [read, h.trim_eq he.printed, if_neg hne, htree, ok_bind, toExpr_toTree]

/-- The product of a sum under a sign and a call. -/
def signedProduct : Expr :=
  .binary .mul (.unary .minus (.binary .add (.name "a") (.lit (.float 0.5))))
    (.call "f" [.lit (.int 12), .lit .none])

theorem read_of_spaced_signedProduct :
    signedProduct.Printable ∧
      read "- ( a\r\n+ 0.5 ) *\n\tf ( 12 , none )".toList = .ok signedProduct := by
  have hhalf : Reads 0.5 := ⟨⟨_, _, by rfl⟩, by decide +kernel⟩
  have ha : IsName "a" := ⟨⟨by decide +kernel, by decide +kernel⟩, by decide⟩
  have hf : IsName "f" := ⟨⟨by decide +kernel, by decide +kernel⟩, by decide⟩
  have hargs : ∀ e ∈ [lit (.int 12), lit .none], Printable e := by
    intro e he
    rcases List.mem_cons.1 he with rfl | he
    · exact .int (by decide +kernel)
    · rw [List.mem_singleton.1 he]
      exact .none
  have he : signedProduct.Printable :=
    .binary (.unary (.binary (.name ha) (.float hhalf))) (.call hf hargs)
  have gap : ∀ (bs : List Char) (t : Token), bs ≠ [] → bs.all isBlank = true →
      ∀ {ts cs}, Spaced ts cs → Spaced (t :: ts) (t.spelling ++ (bs ++ cs)) :=
    fun _ t hne hblank _ _ h => .cons t hne (List.all_eq_true.1 hblank) h
  have space : ∀ (t : Token) {ts cs}, Spaced ts cs →
      Spaced (t :: ts) (t.spelling ++ ([' '] ++ cs)) :=
    fun t => gap [' '] t nofun (by decide)
  obtain ⟨cs, hcs, h⟩ : ∃ cs, "- ( a\r\n+ 0.5 ) *\n\tf ( 12 , none )".toList = cs ∧
      Spaced signedProduct.tokens cs :=
    ⟨_, by decide +kernel,
      space (.symbol .sub) <| space (.symbol .lparen) <|
      gap ['\r', '\n'] (.name "a") nofun (by decide) <| space (.symbol .add) <|
      space (.float 0.5) <| space (.symbol .rparen) <|
      gap ['\n', '\t'] (.symbol .mul) nofun (by decide) <| space (.name "f") <|
      space (.symbol .lparen) <| space (.int 12) <| space (.symbol .comma) <|
      space (.name "none") <| .last (.symbol .rparen)⟩
  rw [hcs]
  exact ⟨he, read_of_spaced he h⟩

end Expr

/-! ### What is not read as it is written -/

/-- An identifier with a mark that is younger than the pattern of names is not read as a name,
and the zero with a sign is not read as a number: its sign is a word of its own. -/
theorem Expr.read_exceptions :
    (isIdentifier "a\u0898".toList = true ∧ "a\u0898" ∉ reservedNames ∧
      Spaced (Expr.name "a\u0898").tokens "a\u0898".toList ∧
      Expr.read "a\u0898".toList ≠ .ok (.name "a\u0898")) ∧
    (0.0 ≤ (-0.0 : Float) ∧ Number.ofText? (Number.chars (-0.0)) = some (-0.0) ∧
      Spaced (Expr.lit (.float (-0.0))).tokens "-0.0".toList ∧
      Expr.read "-0.0".toList ≠ .ok (.lit (.float (-0.0)))) := by
  have hmark : (Expr.read "a\u0898".toList).toOption.isNone = true := by decide +kernel
  have hzero : Expr.read "-0.0".toList = .ok (.unary .minus (.lit (.float 0.0))) := by rfl
  have hspelling : "-0.0".toList = (Token.float (-0.0)).spelling := by decide +kernel
  refine ⟨⟨by decide +kernel, by decide, .last _, fun h => ?_⟩, by decide +kernel,
    by decide +kernel, ?_, fun h => ?_⟩
  · rw [h] at hmark
    cases hmark
  · rw [hspelling]
    exact .last _
  · rw [hzero] at h
    cases h

end Daybook
