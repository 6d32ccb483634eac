import Daybook.Proofs.Reading.Print

/-!
The tree that a printed expression is to be read as, and where the words of such an expression
stand: which ones it holds, which ones it may begin with, and which ones end it.
-/

namespace Daybook

open Daybook.Tree

/-! ### The tree of an expression -/

namespace Expr

mutual

/-- The tree that an expression is read as. -/
def toTree : Expr → Tree
  | .lit l => .lit l
  | .name w => .name w
  | .unary s e => .sign s (toTree e)
  | .binary o a b => .op o (toTree a) (toTree b)
  | .call f args => .call (.name f) (toTrees args) true

def toTrees : List Expr → List Tree
  | [] => []
  | e :: es => toTree e :: toTrees es

end

lemma toExprs_toTrees {es : List Expr} (h : ∀ e ∈ es, e.toTree.toExpr = .ok e) :
    toExprs (toTrees es) = .ok es := by
  induction es with
  | nil => rfl
  | cons e es ih =>
    have he : e.toTree.toExpr = .ok e := h e List.mem_cons_self
    have hes : toExprs (toTrees es) = .ok es := ih fun d hd => h d (List.mem_cons_of_mem e hd)
    rw [toTrees, toExprs, he, hes]
    rfl

lemma toExpr_toTree (e : Expr) : e.toTree.toExpr = .ok e := by
  induction e with
  | lit | name => rfl
  | unary s e ih =>
    rw [toTree, toExpr, ih]
    rfl
  | binary o a b iha ihb =>
    rw [toTree, toExpr, iha, ihb]
    rfl
  | call f args ih =>
    rw [toTree, toExpr, if_pos rfl, toExprs_toTrees ih]
    rfl

end Expr

/-! ### Which words stand where -/

/-- Whether a printed expression may begin with the word. -/
def Token.begins : Token → Bool
  | .name w => w != "not"
  | .int _ | .float _ | .symbol .add | .symbol .sub | .symbol .lparen => true
  | _ => false

/-- Whether the word ends an expression in a place of the given level. -/
def Token.ends (k : ℕ) : Token → Bool
  | .printEnd | .symbol .rparen | .symbol .comma => true
  | .symbol .add | .symbol .sub => decide (0 < k)
  | .symbol .mul | .symbol .div | .symbol .mod => decide (1 < k)
  | _ => false

/-- The words begin with one that ends an expression in a place of the given level. -/
def Ends (k : ℕ) (ts : List Token) : Prop := ∃ t rest, ts = t :: rest ∧ t.ends k = true

variable {k : ℕ} {t : Token} {ts rest : List Token}

lemma Token.ends_mono {l : ℕ} (hkl : k ≤ l) (h : t.ends k = true) : t.ends l = true := by
  cases t with
  | printEnd => rfl
  | symbol s =>
    cases s <;> simp only [ends, decide_eq_true_eq, Bool.false_eq_true] at h ⊢ <;> omega
  | _ => cases h

lemma Ends.mono {l : ℕ} (h : Ends k ts) (hkl : k ≤ l) : Ends l ts := by
  obtain ⟨t, rest, rfl, ht⟩ := h
  exact ⟨t, rest, rfl, t.ends_mono hkl ht⟩

lemma meet_of_ends (h : Ends k ts) : meet ts = .ok () := by
  obtain ⟨t, rest, rfl, ht⟩ := h
  cases t <;> first | rfl | cases ht

lemma Token.Printed.meet (h : t.Printed) : meet (t :: ts) = .ok () := by
  cases h <;> rfl

lemma Operator.level_lt (o : Operator) : o.level < 2 := by
  cases o <;> decide

lemma ends_operator {o : Operator} (h : o.level < k) : Ends k (.symbol o.symbol :: rest) := by
  refine ⟨_, _, rfl, ?_⟩
  cases o <;> exact decide_eq_true h

namespace Expr

@[simp] lemma mem_bracketed {weak : Bool} {ts : List Token} :
    t ∈ bracketed weak ts ↔
      t ∈ ts ∨ weak = true ∧ (t = .symbol .lparen ∨ t = .symbol .rparen) := by
  cases weak <;> simp [bracketed]
  tauto

lemma mem_argTokens {first : Bool} {es : List Expr} (h : t ∈ argTokens first es) :
    t = .symbol .comma ∨ ∃ e ∈ es, t ∈ e.tokens := by
  induction es generalizing first with
  | nil => cases h
  | cons e es ih =>
    rw [argTokens, List.mem_append, List.mem_append] at h
    rcases h with h | h | h
    · cases first
      · exact .inl (List.mem_singleton.1 h)
      · cases h
    · exact .inr ⟨e, List.mem_cons_self, h⟩
    · rcases ih h with h | ⟨d, hd, h⟩
      · exact .inl h
      · exact .inr ⟨d, List.mem_cons_of_mem e hd, h⟩

namespace Printable

variable {e : Expr}

lemma printed (he : e.Printable) : ∀ t ∈ e.tokens, t.Printed := by
  have hsymbol : ∀ s ∈ printedSymbols, (Token.symbol s).Printed := fun s hs => .symbol hs
  -- the parentheses added around a part are symbols like the others
  have hbracketed : ∀ (weak : Bool) (ts : List Token), (∀ t ∈ ts, t.Printed) →
      ∀ t ∈ bracketed weak ts, t.Printed := by
    intro weak ts h t ht
    rcases mem_bracketed.1 ht with ht | ⟨-, rfl | rfl⟩
    · exact h t ht
    · exact hsymbol _ (by decide)
    · exact hsymbol _ (by decide)
  induction he with
  | int h => exact List.forall_mem_singleton.2 (.int h)
  | float h => exact List.forall_mem_singleton.2 (.float h)
  | @bool b => exact List.forall_mem_singleton.2 (.name (by cases b <;> exact ⟨by decide, by decide⟩))
  | none => exact List.forall_mem_singleton.2 (.name ⟨by decide, by decide⟩)
  | name h => exact List.forall_mem_singleton.2 (.name h.toIsWord)
  | @unary s e _ ih =>
    intro t ht
    rcases List.mem_cons.1 ht with rfl | ht
    · exact hsymbol _ (by cases s <;> decide)
    · exact hbracketed _ _ ih t ht
  | @binary o a b _ _ iha ihb =>
    intro t ht
    rw [tokens, List.mem_append, List.mem_cons] at ht
    rcases ht with ht | rfl | ht
    · exact hbracketed _ _ iha t ht
    · exact hsymbol _ (by cases o <;> decide)
    · exact hbracketed _ _ ihb t ht
  | @call f args hf _ ih =>
    intro t ht
    rw [tokens, List.mem_cons, List.mem_cons, List.mem_append, List.mem_singleton] at ht
    rcases ht with rfl | rfl | ht | rfl
    · exact .name hf.toIsWord
    · exact hsymbol _ (by decide)
    · rcases mem_argTokens ht with rfl | ⟨d, hd, ht⟩
      · exact hsymbol _ (by decide)
      · exact ih d hd t ht
    · exact hsymbol _ (by decide)

lemma begins (he : e.Printable) : ∃ t ts, e.tokens = t :: ts ∧ t.begins = true := by
  -- a name is no reserved word
  have hname : ∀ w, IsName w → (Token.name w).begins = true := by
    intro w hw
    have hnot : w ≠ "not" := by
      rintro rfl
      exact hw.free (by decide)
    simpa [Token.begins] using hnot
  induction he with
  | int | float | none => exact ⟨_, _, rfl, rfl⟩
  | @bool b => exact ⟨_, _, rfl, by cases b <;> rfl⟩
  | name hw => exact ⟨_, _, rfl, hname _ hw⟩
  | @unary s => exact ⟨_, _, rfl, by cases s <;> rfl⟩
  | @binary o a b _ _ iha _ =>
    obtain ⟨t, ts, ht, hb⟩ := iha
    rw [tokens, bracketed]
    split
    · exact ⟨_, _, rfl, rfl⟩
    · rw [ht]
      exact ⟨t, _, rfl, hb⟩
  | call hf => exact ⟨_, _, rfl, hname _ hf⟩

end Printable

end Expr

end Daybook
