import Daybook.Proofs.Reading.Tree

/-!
Reading values back: words, expressions in parentheses, and calls with their arguments. The
reader for whole expressions is only asked for expressions of fewer words.
-/

namespace Daybook

open Daybook.Tree

variable {k : ℕ} {ts rest : List Token} {W : Reader Tree} {e : Tree}

/-! ### Steps that do not apply -/

lemma repeated_stop {α : Type}
    {step : α → List Token → Option (Except SyntaxFault (α × List Token))} {a : α}
    (h : step a ts = none) (n : ℕ) : repeated step n a ts = .ok (a, ts) := by
  cases n with
  | zero => rfl
  | succ n => rw [repeated, h]

/-- One more operator of a chain with its right operand. -/
def chainStep (operand : Reader Tree) (join? : Token → Option (Tree → Tree → Tree)) (left : Tree) :
    List Token → Option (Except SyntaxFault (Tree × List Token))
  | [] => none
  | t :: rest => (join? t).map fun join => do
    meet rest
    let (right, ts) ← operand rest
    pure (join left right, ts)

lemma chain_of_operand {operand : Reader Tree} {join? : Token → Option (Tree → Tree → Tree)}
    (h : operand ts = .ok (e, rest)) :
    chain operand join? ts = repeated (chainStep operand join?) rest.length e rest := by
  rw [chain, h]
  rfl

lemma chainStep_stop {operand : Reader Tree} {join? : Token → Option (Tree → Tree → Tree)}
    (hj : ∀ t, t.ends k = true → join? t = none) (h : Ends k ts) :
    chainStep operand join? e ts = none := by
  obtain ⟨t, rest, rfl, ht⟩ := h
  rw [chainStep, hj t ht]
  rfl

lemma chain_single {operand : Reader Tree} {join? : Token → Option (Tree → Tree → Tree)}
    (h : operand ts = .ok (e, rest)) (hj : ∀ t, t.ends k = true → join? t = none)
    (hrest : Ends k rest) : chain operand join? ts = .ok (e, rest) := by
  rw [chain_of_operand h, repeated_stop (chainStep_stop hj hrest)]

lemma postfixStep_stop (h : Ends 2 ts) : postfixStep W e ts = none := by
  obtain ⟨t, rest, rfl, ht⟩ := h
  cases t with
  | symbol s => cases s <;> first | rfl | cases ht
  | _ => rfl

lemma filterStep_stop (h : Ends 2 ts) : filterStep W e ts = none := by
  obtain ⟨t, rest, rfl, ht⟩ := h
  cases t with
  | symbol s => cases s <;> first | rfl | cases ht
  | _ => first | rfl | cases ht

lemma compareStep_stop (h : Ends 0 ts) : compareStep W e ts = none := by
  obtain ⟨t, rest, rfl, ht⟩ := h
  cases t with
  | symbol s => cases s <;> first | rfl | cases ht
  | _ => first | rfl | cases ht

lemma conditionStep_stop (h : Ends 0 ts) : conditionStep W e ts = none := by
  obtain ⟨t, rest, rfl, ht⟩ := h
  cases t <;> first | rfl | cases ht

/-! ### Words and parentheses -/

/-- The reader reads expressions of less than the given number of words. -/
def ReadsBelow (n : ℕ) (W : Reader Tree) : Prop :=
  ∀ e : Expr, e.Printable → e.tokens.length < n → ∀ rest, Ends 0 rest →
    W (e.tokens ++ rest) = .ok (e.toTree, rest)

lemma expect_symbol {s : Symbol} (h : meet rest = .ok ()) :
    expect s (.symbol s :: rest) = .ok rest := by
  rw [expect, if_pos rfl, next, List.tail_cons, h]
  rfl

lemma oneOrTuple_single {inParens : Bool} (h : W ts = .ok (e, rest)) (hts : endsTuple ts = false)
    (hrest : atSymbol .comma rest = false) : oneOrTuple W inParens ts = .ok (e, rest) := by
  have hitems : tupleItems W (ts.length + 1) [] ts = .ok (([e], false), rest) := by
    simp only [tupleItems, List.isEmpty_nil, if_true, pure_bind, hts, h, ok_bind, hrest]
    rfl
  rw [oneOrTuple, hitems]
  rfl

namespace Expr.Printable

variable {n : ℕ} {e : Expr}

lemma endsTuple (he : e.Printable) : endsTuple (e.tokens ++ rest) = false := by
  obtain ⟨t, ts, h, ht⟩ := he.begins
  rw [h]
  cases t with
  | symbol s => cases s <;> first | rfl | cases ht
  | _ => first | rfl | cases ht

lemma meet (he : e.Printable) : Tree.meet (e.tokens ++ rest) = .ok () := by
  obtain ⟨t, ts, h, -⟩ := he.begins
  rw [h, List.cons_append]
  exact (he.printed t (by rw [h]; exact List.mem_cons_self)).meet

lemma value_bracketed (he : e.Printable) (hW : ReadsBelow n W)
    (hn : e.tokens.length < n) (hrest : Ends 2 rest) :
    value W (bracketed true e.tokens ++ rest) = .ok (e.toTree, rest) := by
  have hin : W (e.tokens ++ .symbol .rparen :: rest) = .ok (e.toTree, .symbol .rparen :: rest) :=
    hW e he hn _ ⟨_, _, rfl, rfl⟩
  have hprimary : primary W (bracketed true e.tokens ++ rest) = .ok (e.toTree, rest) := by
    have hb : bracketed true e.tokens ++ rest =
        .symbol .lparen :: (e.tokens ++ .symbol .rparen :: rest) := by
      simp [bracketed]
    rw [hb, primary, he.meet, ok_bind, oneOrTuple_single hin he.endsTuple rfl, ok_bind]
    simp only [expect_symbol (meet_of_ends hrest), ok_bind]
    rfl
  rw [value, hprimary, ok_bind]
  exact repeated_stop (postfixStep_stop hrest) _

lemma value_word {t : Token} {e : Tree} (ht : primary W (t :: rest) = .ok (e, rest))
    (hrest : Ends 2 rest) : value W (t :: rest) = .ok (e, rest) := by
  rw [value, ht, ok_bind]
  exact repeated_stop (postfixStep_stop hrest) _

end Expr.Printable

/-! ### Calls -/

lemma meet_printed (h : ∀ t ∈ ts, t.Printed) (hrest : Ends 0 rest) :
    meet (ts ++ rest) = .ok () ∧ ∀ us, ts ++ rest ≠ .symbol .assign :: us := by
  cases ts with
  | nil =>
    refine ⟨meet_of_ends hrest, ?_⟩
    obtain ⟨t, ts, rfl, ht⟩ := hrest
    rintro us heq
    cases heq
    cases ht
  | cons t ts =>
    have ht : t.Printed := h t List.mem_cons_self
    refine ⟨ht.meet, ?_⟩
    rintro us heq
    cases heq
    cases ht with
    | symbol hs => exact absurd hs (by decide)

lemma argument_positional {n : ℕ} {e : Expr} (he : e.Printable) (hW : ReadsBelow n W)
    (hn : e.tokens.length < n) (hrest : Ends 0 rest) (es : List Tree) :
    argument W { positional := es } (e.tokens ++ rest) =
      .ok ({ positional := es ++ [e.toTree] }, rest) := by
  have hwhole : W (e.tokens ++ rest) = .ok (e.toTree, rest) := hW e he hn rest hrest
  obtain ⟨t, ts, h, ht⟩ := he.begins
  have hprinted : ∀ u ∈ ts, u.Printed := fun u hu =>
    he.printed u (by rw [h]; exact List.mem_cons_of_mem t hu)
  obtain ⟨hmeet, hassign⟩ := meet_printed hprinted hrest
  rw [h, List.cons_append] at hwhole ⊢
  -- only a name could be the keyword of an argument
  cases t with
  | name w =>
    rw [argument, hmeet, ok_bind]
    · simp [hwhole]
    · exact fun us heq => hassign us heq
  | int n => simp [argument, hwhole]
  | float x => simp [argument, hwhole]
  | symbol s =>
    cases s with
    | add | sub | lparen => simp [argument, hwhole]
    | _ => cases ht
  | _ => cases ht

lemma ends_argTokens (es : List Expr) :
    Ends 0 (Expr.argTokens false es ++ .symbol .rparen :: rest) := by
  cases es with
  | nil => exact ⟨_, _, rfl, rfl⟩
  | cons e es => exact ⟨_, _, rfl, rfl⟩

lemma Expr.Printable.not_atRparen {e : Expr} (he : e.Printable) :
    atSymbol .rparen (e.tokens ++ rest) = false := by
  obtain ⟨t, ts, h, ht⟩ := he.begins
  rw [h]
  cases t with
  | symbol s => cases s <;> first | rfl | cases ht
  | _ => rfl

lemma arguments_read {n : ℕ} {es : List Expr} (hW : ReadsBelow n W)
    (hes : ∀ e ∈ es, e.Printable ∧ e.tokens.length < n) (first : Bool) (before : List Tree) {m : ℕ}
    (hm : es.length ≤ m) :
    arguments W m first { positional := before }
        (Expr.argTokens first es ++ .symbol .rparen :: rest) =
      .ok ({ positional := before ++ Expr.toTrees es }, .symbol .rparen :: rest) := by
  induction es generalizing first before m with
  | nil =>
    rw [Expr.toTrees, List.append_nil]
    cases m <;> rfl
  | cons e es ih =>
    obtain ⟨m, rfl⟩ := Nat.exists_eq_add_of_le' (Nat.le_trans (Nat.succ_pos es.length) hm)
    obtain ⟨he, hn⟩ := hes e List.mem_cons_self
    have hends : Ends 0 (Expr.argTokens false es ++ .symbol .rparen :: rest) := ends_argTokens es
    have harg := argument_positional he hW hn hends before
    have htail := ih (fun d hd => hes d (List.mem_cons_of_mem e hd)) false
      (before ++ [e.toTree]) (m := m) (by simpa using hm)
    rw [List.append_assoc, List.singleton_append] at htail
    -- the first argument has no comma before it
    cases first with
    | true =>
      simp only [Expr.argTokens, if_true, List.nil_append, List.append_assoc, arguments,
        he.not_atRparen, Bool.false_eq_true, if_false, pure_bind, Bool.not_true, Bool.false_and,
        harg, ok_bind]
      exact htail
    | false =>
      have hcomma : ∀ ts, atSymbol .rparen (.symbol .comma :: ts) = false := fun _ => rfl
      simp only [Expr.argTokens, Bool.false_eq_true, if_false, List.cons_append, List.nil_append,
        List.append_assoc, arguments, hcomma, expect_symbol he.meet, ok_bind, he.not_atRparen,
        Bool.and_false, harg]
      exact htail

lemma length_argTokens {es : List Expr} (hes : ∀ e ∈ es, e.Printable) (first : Bool) :
    es.length ≤ (Expr.argTokens first es).length := by
  induction es generalizing first with
  | nil => exact Nat.zero_le _
  | cons e es ih =>
    obtain ⟨t, ts, h, -⟩ := (hes e List.mem_cons_self).begins
    have hlen := ih (fun d hd => hes d (List.mem_cons_of_mem e hd)) false
    simp only [Expr.argTokens, h, List.length_append, List.length_cons]
    omega

lemma callOf_read {n : ℕ} {es : List Expr} (hW : ReadsBelow n W)
    (hes : ∀ e ∈ es, e.Printable ∧ e.tokens.length < n) (hrest : meet rest = .ok ()) :
    callOf W e (.symbol .lparen :: (Expr.argTokens true es ++ .symbol .rparen :: rest)) =
      .ok (.call e (Expr.toTrees es) true, rest) := by
  have hmeet : meet (Expr.argTokens true es ++ .symbol .rparen :: rest) = .ok () := by
    cases es with
    | nil => rfl
    | cons d es =>
      rw [Expr.argTokens, if_pos rfl, List.nil_append, List.append_assoc]
      exact (hes d List.mem_cons_self).1.meet
  have hlen : es.length ≤ (Expr.argTokens true es ++ .symbol .rparen :: rest).length := by
    have h := length_argTokens (fun e he => (hes e he).1) true
    rw [List.length_append]
    omega
  simp only [callOf, callArgs, expect_symbol hmeet, ok_bind, arguments_read hW hes true [] hlen,
    expect_symbol hrest]
  rfl

lemma IsName.ofName {w : String} (hw : IsName w) : ofName w = .name w := by
  have h := hw.free
  simp only [reservedNames, List.mem_cons, not_or] at h
  simp [Tree.ofName, constant?, h]

lemma value_call {n : ℕ} {f : String} {es : List Expr} (hf : IsName f) (hW : ReadsBelow n W)
    (hes : ∀ e ∈ es, e.Printable ∧ e.tokens.length < n) (hrest : Ends 2 rest) :
    value W ((Expr.call f es).tokens ++ rest) = .ok ((Expr.call f es).toTree, rest) := by
  have hts : (Expr.call f es).tokens ++ rest =
      .name f :: .symbol .lparen :: (Expr.argTokens true es ++ .symbol .rparen :: rest) := by
    simp [Expr.tokens]
  have hstep : postfixStep W (.name f)
      (.symbol .lparen :: (Expr.argTokens true es ++ .symbol .rparen :: rest)) =
      some (.ok (.call (.name f) (Expr.toTrees es) true, rest)) :=
    congrArg some (callOf_read hW hes (meet_of_ends hrest))
  have hprimary : ∀ ts, primary W (.name f :: .symbol .lparen :: ts) =
      .ok (.name f, .symbol .lparen :: ts) := by
    intro ts
    rw [primary, hf.ofName]
    rfl
  simp only [hts, value, hprimary, ok_bind, List.length_cons, repeated, hstep]
  exact repeated_stop (postfixStep_stop hrest) _

end Daybook
