import Daybook.Proofs.Reading.Decimals
import Daybook.Proofs.Reading.Tree

/-!
Cutting a printed text into its words. Blanks are passed over, every word is taken as it was
written, and the brackets of an expression leave no closer due.
-/

namespace Daybook

open Text

variable {t : Token} {ts us : List Token} {cs gap rest : List Char}

lemma Token.Printed.lexes (h : t.Printed) : t.Lexes := by
  cases h with
  | int h => exact lexes_int h
  | float h => exact lexes_float h
  | name h => exact lexes_name h
  | symbol h => exact lexes_symbol h

/-! ### Brackets -/

/-- The closers that are due after words, if they are due before. -/
def closersAfter (due : List Symbol) : List Token → Except WordFault (List Symbol)
  | [] => .ok due
  | .symbol s :: ts => do closersAfter (← Token.balance due s) ts
  | _ :: ts => closersAfter due ts

lemma closersAfter_append (due : List Symbol) (ts us : List Token) :
    closersAfter due (ts ++ us) = closersAfter due ts >>= (closersAfter · us) := by
  induction ts generalizing due with
  | nil => rfl
  | cons t ts ih =>
    cases t with
    | symbol s =>
      rw [List.cons_append, closersAfter, closersAfter, bind_assoc]
      simp only [ih]
    | _ => exact ih due

namespace Expr

/-- Words without open brackets. -/
def Balanced (ts : List Token) : Prop := ∀ due, closersAfter due ts = .ok due

lemma Balanced.append (ht : Balanced ts) (hu : Balanced us) : Balanced (ts ++ us) := by
  intro due
  rw [closersAfter_append, ht due, ok_bind, hu due]

lemma Balanced.inParens (h : Balanced ts) :
    Balanced (.symbol .lparen :: (ts ++ [.symbol .rparen])) := by
  intro due
  rw [closersAfter, Token.balance, ok_bind, closersAfter_append, h, ok_bind]
  rfl

lemma Balanced.bracketed {weak : Bool} (h : Balanced ts) : Balanced (bracketed weak ts) := by
  cases weak
  · exact h
  · exact h.inParens

lemma balanced_argTokens {first : Bool} {es : List Expr} (h : ∀ e ∈ es, Balanced e.tokens) :
    Balanced (argTokens first es) := by
  induction es generalizing first with
  | nil => exact fun _ => rfl
  | cons e es ih =>
    have htail : Balanced (argTokens false es) := ih fun d hd => h d (List.mem_cons_of_mem e hd)
    have hcomma : Balanced (if first then [] else [.symbol .comma]) := by
      cases first <;> exact fun _ => rfl
    exact hcomma.append ((h e List.mem_cons_self).append htail)

/-- **The brackets of an expression are closed.** -/
lemma balanced_tokens (e : Expr) : Balanced e.tokens := by
  induction e with
  | lit l => cases l <;> exact fun _ => rfl
  | name w => exact fun _ => rfl
  | unary s e ih =>
    have hsign : Balanced [.symbol s.symbol] := by cases s <;> exact fun _ => rfl
    exact hsign.append ih.bracketed
  | binary o a b iha ihb =>
    have hoperator : Balanced [.symbol o.symbol] := by cases o <;> exact fun _ => rfl
    exact iha.bracketed.append (hoperator.append ihb.bracketed)
  | call f args ih =>
    have hname : Balanced [.name f] := fun _ => rfl
    exact hname.append (balanced_argTokens ih).inParens

end Expr

/-! ### Words off the text -/

namespace Token

variable {b : Char} {due : List Symbol} {total n : ℕ}

lemma printEnd?_of_isBlank (hb : isBlank b = true) : printEnd? (b :: rest) = none :=
  printEnd?_of_ne (ne_of_isBlank hb (by decide)) (ne_of_isBlank hb (by decide))

lemma cut_blank (hb : isBlank b = true) :
    cut printEnd? .printEnd total (n + 1) false due (b :: rest) =
      cut printEnd? .printEnd total n false due rest := by
  rw [cut, printEnd?_of_isBlank hb, ite_self]
  simp only [hb, if_true]

lemma cut_gap (hgap : ∀ c ∈ gap, isBlank c = true) :
    cut printEnd? .printEnd total (n + gap.length) false due (gap ++ rest) =
      cut printEnd? .printEnd total n false due rest := by
  induction gap with
  | nil => rfl
  | cons b gap ih =>
    have hgap' : ∀ c ∈ gap, isBlank c = true := fun c hc => hgap c (List.mem_cons_of_mem b hc)
    rw [List.length_cons, ← Nat.add_assoc, List.cons_append,
      cut_blank (hgap b List.mem_cons_self), ih hgap']

lemma cut_scan {c : Char} {after : List Symbol} (hend : printEnd? (c :: cs) = none)
    (hc : isBlank c = false) (hscan : scan false (c :: cs) = some (.ok t, rest))
    (hd : closersAfter due [t] = .ok after) (hdot : t ≠ .symbol .dot) :
    cut printEnd? .printEnd total (n + 1) false due (c :: cs) =
      (t :: (cut printEnd? .printEnd total n false after rest).1,
        (cut printEnd? .printEnd total n false after rest).2) := by
  rw [cut, hend, ite_self]
  simp only [hc, Bool.false_eq_true, if_false, hscan]
  cases t with
  | symbol s =>
    have hs : (s == Symbol.dot) = false :=
      beq_eq_false_iff_ne.2 fun h => hdot (congrArg Token.symbol h)
    have hbalance : balance due s = .ok after := by
      rw [← hd, closersAfter]
      cases balance due s <;> rfl
    simp only [hbalance, hs]
  | _ =>
    cases hd
    rfl

lemma cut_word (ht : t.Printed) {after : List Symbol} (hd : closersAfter due [t] = .ok after)
    (hb : isBlank b = true) :
    cut printEnd? .printEnd total (n + 1) false due (t.spelling ++ b :: rest) =
      (t :: (cut printEnd? .printEnd total n false after (b :: rest)).1,
        (cut printEnd? .printEnd total n false after (b :: rest)).2) := by
  have hlex := ht.lexes
  have hend := hlex.isEnd b rest hb
  have hscan := hlex.scan b rest hb
  have hdots : ∀ s ∈ printedSymbols, s ≠ Symbol.dot := by decide
  have hdot : t ≠ .symbol .dot := by
    rintro rfl
    cases ht with
    | symbol hs => exact hdots _ hs rfl
  cases hspelling : t.spelling with
  | nil => exact absurd hspelling hlex.ne_nil
  | cons c cs =>
    have hc : isBlank c = false := hlex.isBlank c (by rw [hspelling]; exact List.mem_cons_self)
    rw [hspelling, List.cons_append] at hend hscan
    exact cut_scan hend hc hscan hd hdot

lemma cut_closing (hn : 2 ≤ n) :
    cut printEnd? .printEnd total n false [] Expr.closing = ([.printEnd], []) := by
  obtain ⟨n, rfl⟩ := Nat.exists_eq_add_of_le' hn
  rw [Expr.closing, cut_blank rfl]
  rfl

/-- **A printed text is cut into its words**, up to the end of its statement. -/
theorem cut_spaced (h : Spaced ts cs) (hts : ∀ t ∈ ts, t.Printed)
    (hdue : closersAfter due ts = .ok []) (hn : (cs ++ Expr.closing).length < n) :
    cut printEnd? .printEnd total n false due (cs ++ Expr.closing) = (ts ++ [.printEnd], []) := by
  induction h generalizing due n with
  | last t =>
    have ht : t.Printed := hts t List.mem_cons_self
    have hlen : 3 ≤ n := by
      simp only [Expr.closing, List.length_append, List.length_cons] at hn
      omega
    obtain ⟨n, rfl⟩ := Nat.exists_eq_add_of_le' hlen
    have hend : cut printEnd? .printEnd total (n + 2) false [] Expr.closing =
        ([.printEnd], []) := cut_closing (Nat.le_add_left 2 n)
    rw [Expr.closing] at hend ⊢
    rw [cut_word ht hdue (by decide), hend]
    rfl
  | @cons t ts gap cs hgap hblank _ ih =>
    obtain ⟨after, hfirst, hrest⟩ : ∃ after, closersAfter due [t] = .ok after ∧
        closersAfter after ts = .ok [] := by
      rw [← List.singleton_append, closersAfter_append] at hdue
      exact bind_eq_ok.1 hdue
    -- blanks stand behind every word but the last, so no two words run together
    cases gap with
    | nil => exact absurd rfl hgap
    | cons b gap =>
      have hspelling : 1 ≤ t.spelling.length :=
        List.length_pos_iff.2 (hts t List.mem_cons_self).lexes.ne_nil
      simp only [List.length_append, List.length_cons] at hn
      obtain ⟨n, rfl⟩ : ∃ k, n = k + (b :: gap).length + 1 :=
        ⟨n - (gap.length + 2), by rw [List.length_cons]; omega⟩
      have hskip : cut printEnd? .printEnd total (n + (b :: gap).length) false after
          (b :: gap ++ (cs ++ Expr.closing)) =
          cut printEnd? .printEnd total n false after (cs ++ Expr.closing) := cut_gap hblank
      have htail : cut printEnd? .printEnd total n false after (cs ++ Expr.closing) =
          (ts ++ [.printEnd], []) := by
        refine ih (fun u hu => hts u (List.mem_cons_of_mem t hu)) hrest ?_
        simp only [List.length_append, List.length_cons] at hn ⊢
        omega
      rw [htail] at hskip
      rw [List.append_assoc, List.append_assoc, List.cons_append,
        cut_word (hts t List.mem_cons_self) hfirst (hblank b List.mem_cons_self),
        ← List.cons_append, hskip]
      rfl

end Token

end Daybook
