import Daybook.Proofs.Reading.Values

/-!
Reading expressions back. Each level of the reader takes the words of an expression in a place
of its own level and stops before a word that ends them; operators of one level are gathered
along a spine that grows to the left.
-/

namespace Daybook

open Daybook.Tree

variable {k n : ℕ} {rest : List Token} {W : Reader Tree}

namespace Expr

lemma tokensAt_of_le {e : Expr} (h : k ≤ e.level) : e.tokensAt k = e.tokens := by
  simp [tokensAt, bracketed, Nat.not_lt.2 h]

lemma tokensAt_of_lt {e : Expr} (h : e.level < k) : e.tokensAt k = bracketed true e.tokens := by
  simp [tokensAt, h]

lemma tokensAt_succ {e : Expr} (h : e.level ≠ k) : e.tokensAt k = e.tokensAt (k + 1) := by
  rcases Nat.lt_or_gt_of_ne h with h | h
  · rw [tokensAt_of_lt h, tokensAt_of_lt (by omega)]
  · rw [tokensAt_of_le (by omega), tokensAt_of_le (by omega)]

lemma tokens_unary (s : Sign) (e : Expr) :
    (unary s e).tokens = .symbol s.symbol :: e.tokensAt 2 := rfl

lemma tokens_binary (o : Operator) (a b : Expr) :
    (binary o a b).tokens =
      a.tokensAt o.level ++ .symbol o.symbol :: b.tokensAt (o.level + 1) := rfl

lemma Printable.meet_tokensAt {e : Expr} (he : e.Printable) (k : ℕ) :
    Tree.meet (e.tokensAt k ++ rest) = .ok () := by
  rcases Nat.lt_or_ge e.level k with h | h
  · rw [tokensAt_of_lt h]
    rfl
  · rw [tokensAt_of_le h]
    exact he.meet

lemma length_tokens_le_argTokens {e : Expr} {es : List Expr} (he : e ∈ es) (first : Bool) :
    e.tokens.length ≤ (argTokens first es).length := by
  induction es generalizing first with
  | nil => cases he
  | cons d es ih =>
    rw [argTokens, List.length_append, List.length_append]
    rcases List.mem_cons.1 he with rfl | he
    · omega
    · have h := ih he false
      omega

end Expr

lemma signed_read (hW : ReadsBelow n W) {e : Expr} (he : e.Printable)
    (hn : (e.tokensAt 2).length ≤ n) (hrest : Ends 2 rest) :
    signed W (e.tokensAt 2 ++ rest) = .ok (e.toTree, rest) := by
  -- an expression of a single word, whichever it is
  have hword : ∀ (t : Token) (e : Tree), primary W (t :: rest) = (do meet rest; pure (e, rest)) →
      value W (t :: rest) = .ok (e, rest) := by
    intro t e ht
    rw [meet_of_ends hrest] at ht
    exact Expr.Printable.value_word ht hrest
  induction he with
  | @int m => exact hword (.int m) _ rfl
  | @float x => exact hword (.float x) _ rfl
  | @bool b => exact hword (.name _) _ (by cases b <;> rfl)
  | none => exact hword (.name _) _ rfl
  | @name w hw => exact hword (.name w) _ (by rw [primary, hw.ofName]; rfl)
  | @unary s e he ih =>
    rw [Expr.tokensAt_of_le (Nat.le_refl 2), Expr.tokens_unary] at hn ⊢
    have hin : signed W (e.tokensAt 2 ++ rest) = .ok (e.toTree, rest) :=
      ih (Nat.le_of_succ_le hn)
    cases s <;> simp only [Sign.symbol, List.cons_append, signed, he.meet_tokensAt, ok_bind, hin] <;>
      rfl
  | @binary o a b ha hb _ _ =>
    rw [Expr.tokensAt_of_lt o.level_lt] at hn ⊢
    refine (ha.binary hb).value_bracketed hW ?_ hrest
    simp [Expr.bracketed] at hn
    omega
  | @call f es hf hes _ =>
    rw [Expr.tokensAt_of_le (Nat.le_succ 2)] at hn ⊢
    refine value_call hf hW (fun e he => ⟨hes e he, ?_⟩) hrest
    have h := Expr.length_tokens_le_argTokens he true
    simp [Expr.tokens] at hn
    omega

section

variable {operand : Reader Tree} {join? : Token → Option (Tree → Tree → Tree)}
  (hk : k < 2)
  (hjoin : ∀ o : Operator, o.level = k → join? (.symbol o.symbol) = some (.op o))
  (hoperand : ∀ e : Expr, e.Printable → (e.tokensAt (k + 1)).length ≤ n → ∀ rest,
    Ends (k + 1) rest → operand (e.tokensAt (k + 1) ++ rest) = .ok (e.toTree, rest))

include hk hjoin hoperand

/-- Operators of one level are gathered along the spine of an expression: behind its words the
chain goes on with its whole tree as the left operand. -/
lemma chain_spine {e : Expr} (he : e.Printable) (hn : (e.tokensAt k).length ≤ n)
    (hrest : Ends (k + 1) rest) :
    ∃ m, rest.length ≤ m ∧ chain operand join? (e.tokensAt k ++ rest) =
      repeated (chainStep operand join?) m e.toTree rest := by
  -- an expression of another level is the first operand of the chain
  have hfirst : ∀ (e : Expr) (rest : List Token), e.Printable → e.level ≠ k →
      (e.tokensAt k).length ≤ n → Ends (k + 1) rest →
      ∃ m, rest.length ≤ m ∧ chain operand join? (e.tokensAt k ++ rest) =
        repeated (chainStep operand join?) m e.toTree rest := by
    intro e rest he hlevel hn hrest
    rw [Expr.tokensAt_succ hlevel] at hn ⊢
    exact ⟨rest.length, Nat.le_refl _, chain_of_operand (hoperand e he hn rest hrest)⟩
  induction he generalizing rest with
  | int h => exact hfirst _ _ (.int h) (by simp only [Expr.level]; omega) hn hrest
  | float h => exact hfirst _ _ (.float h) (by simp only [Expr.level]; omega) hn hrest
  | bool => exact hfirst _ _ .bool (by simp only [Expr.level]; omega) hn hrest
  | none => exact hfirst _ _ .none (by simp only [Expr.level]; omega) hn hrest
  | name h => exact hfirst _ _ (.name h) (by simp only [Expr.level]; omega) hn hrest
  | unary h => exact hfirst _ _ (.unary h) (by simp only [Expr.level]; omega) hn hrest
  | call h hs => exact hfirst _ _ (.call h hs) (by simp only [Expr.level]; omega) hn hrest
  | @binary o a b ha hb iha _ =>
    by_cases hlevel : o.level = k
    · subst hlevel
      have hle : o.level ≤ (Expr.binary o a b).level := Nat.le_refl _
      rw [Expr.tokensAt_of_le hle, Expr.tokens_binary] at hn ⊢
      rw [List.length_append, List.length_cons] at hn
      -- the left operand ends at the operator, and the chain takes one more step there
      have hends : Ends (o.level + 1) (.symbol o.symbol :: (b.tokensAt (o.level + 1) ++ rest)) :=
        ends_operator (Nat.lt_succ_self _)
      obtain ⟨m, hm, hchain⟩ := iha (by omega) hends
      rw [List.length_cons, List.length_append] at hm
      obtain ⟨m, rfl⟩ := Nat.exists_eq_add_of_le' (Nat.le_trans (Nat.succ_pos _) hm)
      have hright := hoperand b hb (by omega) rest hrest
      have hstep : chainStep operand join? a.toTree (.symbol o.symbol ::
          (b.tokensAt (o.level + 1) ++ rest)) = some (.ok (.op o a.toTree b.toTree, rest)) := by
        rw [chainStep, hjoin o rfl, Option.map_some, hb.meet_tokensAt, ok_bind, hright]
        rfl
      refine ⟨m, by omega, ?_⟩
      rw [List.append_assoc, List.cons_append, hchain, repeated, hstep]
      rfl
    · exact hfirst _ _ (.binary ha hb) hlevel hn hrest

/-- A chain takes the words of an expression of its level. -/
lemma chain_read (hstop : ∀ t, t.ends k = true → join? t = none) {e : Expr} (he : e.Printable)
    (hn : (e.tokensAt k).length ≤ n) (hrest : Ends k rest) :
    chain operand join? (e.tokensAt k ++ rest) = .ok (e.toTree, rest) := by
  obtain ⟨m, -, hchain⟩ := chain_spine hk hjoin hoperand he hn (hrest.mono (Nat.le_succ k))
  rw [hchain, repeated_stop (chainStep_stop hstop hrest)]

end

lemma power_read (hW : ReadsBelow n W) {e : Expr} (he : e.Printable)
    (hn : (e.tokensAt 2).length ≤ n) (hrest : Ends 2 rest) :
    power W (e.tokensAt 2 ++ rest) = .ok (e.toTree, rest) := by
  have hunary : unary W (e.tokensAt 2 ++ rest) = .ok (e.toTree, rest) := by
    rw [unary, signed_read hW he hn hrest, ok_bind]
    exact repeated_stop (filterStep_stop hrest) _
  refine chain_single hunary (fun t ht => ?_) hrest
  cases t with
  | symbol s => cases s <;> first | rfl | cases ht
  | _ => rfl

lemma joined_read (hW : ReadsBelow n W) {e : Expr} (he : e.Printable)
    (hn : (e.tokensAt 1).length ≤ n) (hrest : Ends 1 rest) :
    joined W (e.tokensAt 1 ++ rest) = .ok (e.toTree, rest) := by
  have hproduct : product W (e.tokensAt 1 ++ rest) = .ok (e.toTree, rest) := by
    refine chain_read (by decide) (fun o ho => ?_) (fun e he hn rest hrest => ?_)
      (fun t ht => ?_) he hn hrest
    · cases o <;> first | rfl | cases ho
    · exact power_read hW he hn hrest
    · cases t with
      | symbol s => cases s <;> first | rfl | cases ht
      | _ => rfl
  refine chain_single hproduct (fun t ht => ?_) hrest
  cases t with
  | symbol s => cases s <;> first | rfl | cases ht
  | _ => rfl

lemma sum_read (hW : ReadsBelow n W) {e : Expr} (he : e.Printable) (hn : e.tokens.length ≤ n)
    (hrest : Ends 0 rest) : sum W (e.tokens ++ rest) = .ok (e.toTree, rest) := by
  rw [← Expr.tokensAt_of_le (Nat.zero_le e.level)] at hn ⊢
  refine chain_read (by decide) (fun o ho => ?_) (fun e he hn rest hrest => ?_)
    (fun t ht => ?_) he hn hrest
  · cases o <;> first | rfl | cases ho
  · exact joined_read hW he hn hrest
  · cases t with
    | symbol s => cases s <;> first | rfl | cases ht
    | _ => rfl

lemma conditional_read (hW : ReadsBelow n W) {e : Expr} (he : e.Printable)
    (hn : e.tokens.length ≤ n) (hrest : Ends 0 rest) :
    conditional W (e.tokens ++ rest) = .ok (e.toTree, rest) := by
  -- nothing behind the sum, level after level up to the conditional
  have hcomparison : comparison W (e.tokens ++ rest) = .ok (e.toTree, rest) := by
    rw [comparison, sum_read hW he hn hrest, ok_bind]
    exact repeated_stop (compareStep_stop hrest) _
  have hnegation : negation W (e.tokens ++ rest) = .ok (e.toTree, rest) := by
    obtain ⟨t, ts, h, ht⟩ := he.begins
    rw [h, List.cons_append] at hcomparison ⊢
    cases t with
    | name w =>
      have hw : w ≠ "not" := by simpa [Token.begins] using ht
      rw [negation, if_neg hw, hcomparison]
    | _ => exact hcomparison
  have hconjunction : conjunction W (e.tokens ++ rest) = .ok (e.toTree, rest) := by
    refine chain_single hnegation (fun t ht => ?_) hrest
    cases t <;> first | rfl | cases ht
  have hdisjunction : disjunction W (e.tokens ++ rest) = .ok (e.toTree, rest) := by
    refine chain_single hconjunction (fun t ht => ?_) hrest
    cases t <;> first | rfl | cases ht
  rw [conditional, hdisjunction, ok_bind]
  exact repeated_stop (conditionStep_stop hrest) _

/-- **Words are read back** by a reader that may nest as deep as there are words. -/
theorem expression_read (n : ℕ) : ReadsBelow n (expression n) := by
  induction n with
  | zero =>
    intro e _ hn
    cases hn
  | succ n ih =>
    intro e he hn rest hrest
    exact conditional_read ih he (Nat.le_of_lt_succ hn) hrest

/-- The words of a print statement are read as the tree of their expression. -/
theorem statement_read {e : Expr} (he : e.Printable) :
    statement (e.tokens ++ [.printEnd]) = .ok (e.toTree, []) := by
  have hends : Ends 0 [.printEnd] := ⟨_, _, rfl, rfl⟩
  have hlen : e.tokens.length < (e.tokens ++ [Token.printEnd]).length + 1 := by
    rw [List.length_append]
    omega
  have hread := expression_read _ e he hlen _ hends
  rw [statement, he.meet, ok_bind, oneOrTuple_single hread he.endsTuple rfl]
  rfl

end Daybook
