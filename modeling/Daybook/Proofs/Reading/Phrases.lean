import Daybook.Proofs.Reading.Grammar
import Daybook.Proofs.Reading.Values

/-!
Reading takes phrases. Whenever a reader hands out the tree of an expression, the words that it
has taken off derive that expression in the place that the reader is for. Of all other trees
nothing is said, and a construct that expressions do not have stays in every tree around it.
-/

namespace Daybook

open Daybook.Tree

variable {ts us rest : List Token} {t : Tree} {e : Expr} {W : Reader Tree} {p q : Expr → Phrase}

/-! ### Trees of expressions -/

lemma toExpr_sign_eq_ok {s : Sign} :
    (Tree.sign s t).toExpr = .ok e ↔ ∃ d, t.toExpr = .ok d ∧ .unary s d = e := by
  rw [Tree.toExpr, bind_eq_ok]
  simp only [pure, Except.pure, Except.ok.injEq]

lemma toExpr_op_eq_ok {o : Operator} {l r : Tree} :
    (Tree.op o l r).toExpr = .ok e ↔
      ∃ a b, l.toExpr = .ok a ∧ r.toExpr = .ok b ∧ .binary o a b = e := by
  simp only [Tree.toExpr, bind_eq_ok, pure, Except.pure, Except.ok.injEq]
  grind

lemma toExprs_cons_eq_ok {l : List Tree} {es : List Expr} :
    toExprs (t :: l) = .ok es ↔
      ∃ d ds, t.toExpr = .ok d ∧ toExprs l = .ok ds ∧ d :: ds = es := by
  simp only [toExprs, bind_eq_ok, pure, Except.pure, Except.ok.injEq]
  grind

lemma toExpr_call_eq_ok {c : Tree} {args : List Tree} {plain : Bool}
    (h : (Tree.call c args plain).toExpr = .ok e) :
    ∃ f es, c = .name f ∧ plain = true ∧ toExprs args = .ok es ∧ e = .call f es := by
  cases c with
  | name f =>
    cases plain with
    | false => cases h
    | true =>
      cases hargs : toExprs args with
      | error f' =>
        rw [Tree.toExpr, if_pos rfl, hargs] at h
        cases h
      | ok es =>
        rw [Tree.toExpr, if_pos rfl, hargs] at h
        cases h
        exact ⟨f, es, rfl, rfl, rfl, rfl⟩
  | _ => cases h

/-! ### Words taken off -/

/-- If the tree is one of an expression, the words before the rest derive the phrase of it. -/
def Covers (p : Expr → Phrase) (ts : List Token) (t : Tree) (rest : List Token) : Prop :=
  ∀ e, t.toExpr = .ok e → ∃ ws, ts = ws ++ rest ∧ Derives (p e) ws

/-- The reader takes off phrases. -/
def Takes (p : Expr → Phrase) (r : Reader Tree) : Prop :=
  ∀ ts t rest, r ts = .ok (t, rest) → Covers p ts t rest

lemma covers_other (c : Construct) : Covers p ts (.other c) rest := by
  intro e h
  cases h

lemma Covers.mono (h : Covers q ts t rest)
    (hpq : ∀ e ws, Derives (q e) ws → Derives (p e) ws) : Covers p ts t rest := by
  intro e he
  obtain ⟨ws, hts, hws⟩ := h e he
  exact ⟨ws, hts, hpq e ws hws⟩

lemma expect_eq_ok {s : Symbol} (h : expect s ts = .ok rest) : ts = .symbol s :: rest := by
  rw [expect.eq_def] at h
  split at h
  · split at h
    · rename_i u us hu
      subst hu
      obtain ⟨_, -, h⟩ := bind_eq_ok.1 h
      cases h
      rfl
    · cases h
  · cases h

lemma ite_bind_eq_ok {ε α β : Type} {c : Prop} [Decidable c] {x y : Except ε α}
    {f : α → Except ε β} {b : β} (h : (if c then x >>= f else y >>= f) = .ok b) :
    ∃ a, (if c then x else y) = .ok a ∧ f a = .ok b := by
  split at h
  · rename_i hc
    rw [if_pos hc]
    exact bind_eq_ok.1 h
  · rename_i hc
    rw [if_neg hc]
    exact bind_eq_ok.1 h

/-- What holds before a repeated step and is kept by it holds after the last one. -/
lemma repeated_keeps {α : Type}
    {step : α → List Token → Option (Except SyntaxFault (α × List Token))}
    {P : α → List Token → Prop}
    (hstep : ∀ a ts b us, P a ts → step a ts = some (.ok (b, us)) → P b us) {n : ℕ} {a b : α}
    (ha : P a ts) (h : repeated step n a ts = .ok (b, us)) : P b us := by
  induction n generalizing a ts with
  | zero =>
    cases h
    exact ha
  | succ n ih =>
    rw [repeated] at h
    split at h
    · cases h
      exact ha
    · cases h
    · rename_i hnext
      exact ih (hstep _ _ _ _ ha hnext) h

lemma takes_chain {operand : Reader Tree} {join? : Token → Option (Tree → Tree → Tree)}
    (hoperand : Takes q operand) (hpq : ∀ e ws, Derives (q e) ws → Derives (p e) ws)
    (hjoin : ∀ t join, join? t = some join → ∀ ts l r us rest, Covers p ts l (t :: us) →
      Covers q us r rest → Covers p ts (join l r) rest) :
    Takes p (chain operand join?) := by
  intro ts t rest h
  obtain ⟨⟨first, us⟩, hfirst, h⟩ := bind_eq_ok.1 h
  refine repeated_keeps (P := fun t rest => Covers p ts t rest) (fun l us t rest hl hstep => ?_)
    ((hoperand _ _ _ hfirst).mono hpq) h
  split at hstep
  · cases hstep
  · rename_i w us
    obtain ⟨join, hw, hstep⟩ := Option.map_eq_some_iff.1 hstep
    obtain ⟨_, -, hstep⟩ := bind_eq_ok.1 hstep
    obtain ⟨⟨r, us⟩, hr, hstep⟩ := bind_eq_ok.1 hstep
    cases hstep
    exact hjoin w join hw ts l r _ _ hl (hoperand _ _ _ hr)

lemma covers_op {o : Operator} {l r : Tree}
    (hl : Covers (.part o.level) ts l (.symbol o.symbol :: us))
    (hr : Covers (.part (o.level + 1)) us r rest) :
    Covers (.part o.level) ts (.op o l r) rest := by
  intro e he
  obtain ⟨a, b, ha, hb, rfl⟩ := toExpr_op_eq_ok.1 he
  obtain ⟨vs, rfl, hvs⟩ := hl a ha
  obtain ⟨ws, rfl, hws⟩ := hr b hb
  exact ⟨vs ++ .symbol o.symbol :: ws, by rw [List.append_assoc]; rfl, .binary hvs hws⟩


/-! ### Tuples and parentheses -/

section

variable {item : Reader Tree} {n : ℕ}

/-- What one more item of a tuple can be: none before an end, or an expression, with which the
items end unless a comma stands behind it. -/
lemma tupleItems_succ_eq_ok {es fs : List Tree} {commas : Bool}
    (h : tupleItems item (n + 1) es ts = .ok ((fs, commas), rest)) :
    ∃ us, (if es.isEmpty then pure ts else expect .comma ts) = Except.ok us ∧
      (fs = es ∧ commas = !es.isEmpty ∨ ∃ d vs, item us = .ok (d, vs) ∧
        (tupleItems item n (es ++ [d]) vs = .ok ((fs, commas), rest) ∨
          fs = es ++ [d] ∧ commas = !es.isEmpty ∧ rest = vs)) := by
  unfold tupleItems at h
  obtain ⟨us, hus, h⟩ := ite_bind_eq_ok h
  refine ⟨us, hus, ?_⟩
  dsimp only at h
  split at h
  · cases h
    exact .inl ⟨rfl, rfl⟩
  · obtain ⟨⟨d, vs⟩, hd, h⟩ := bind_eq_ok.1 h
    refine .inr ⟨d, vs, hd, ?_⟩
    dsimp only at h
    split at h
    · exact .inl h
    · cases h
      exact .inr ⟨rfl, rfl, rfl⟩

lemma length_tupleItems {es fs : List Tree} {commas : Bool}
    (h : tupleItems item n es ts = .ok ((fs, commas), rest)) : es.length ≤ fs.length := by
  induction n generalizing es ts with
  | zero =>
    cases h
    exact Nat.le_refl _
  | succ n ih =>
    obtain ⟨us, -, ⟨rfl, -⟩ | ⟨d, vs, -, h | ⟨rfl, -⟩⟩⟩ := tupleItems_succ_eq_ok h
    · exact Nat.le_refl _
    · have hlength : (es ++ [d]).length ≤ fs.length := ih h
      rw [List.length_append] at hlength
      omega
    · simp

lemma tupleItems_single {d : Tree} (h : tupleItems item n [d] ts = .ok (([t], false), rest)) :
    t = d ∧ rest = ts := by
  cases n with
  | zero =>
    cases h
    exact ⟨rfl, rfl⟩
  | succ n =>
    obtain ⟨us, -, ⟨-, hcommas⟩ | ⟨d', vs, -, h | ⟨-, hcommas, -⟩⟩⟩ := tupleItems_succ_eq_ok h
    · cases hcommas
    · have hlength : 2 ≤ 1 := length_tupleItems h
      omega
    · cases hcommas

lemma oneOrTuple_eq_ok {inParens : Bool} (h : oneOrTuple item inParens ts = .ok (t, rest)) :
    (∃ es, t = .tuple es) ∨ item ts = .ok (t, rest) := by
  unfold oneOrTuple at h
  obtain ⟨⟨⟨es, commas⟩, us⟩, hitems, h⟩ := bind_eq_ok.1 h
  dsimp only at h
  split at h
  · cases h
    -- one item and no comma is the item itself
    right
    obtain ⟨vs, hvs, ⟨hnil, -⟩ | ⟨d, ws, hd, h | ⟨hone, -, rfl⟩⟩⟩ := tupleItems_succ_eq_ok hitems
    · cases hnil
    · cases hvs
      obtain ⟨rfl, rfl⟩ := tupleItems_single h
      exact hd
    · cases hvs
      cases hone
      exact hd
  · left
    split at h
    · cases h
      exact ⟨_, rfl⟩
    · cases h
  · cases h
    exact .inl ⟨_, rfl⟩

end

lemma covers_oneOrTuple {inParens : Bool} (hW : Takes p W)
    (h : oneOrTuple W inParens ts = .ok (t, rest)) : Covers p ts t rest := by
  rcases oneOrTuple_eq_ok h with ⟨es, rfl⟩ | hone
  · intro e he
    cases he
  · exact hW _ _ _ hone

/-! ### Calls -/

lemma positional_eq_ok {a b : Args} (h : (do
      if a.named || a.star || a.doubleStar then throw .badArguments
      let (e, us) ← W ts
      pure ({ a with positional := a.positional ++ [e] }, us)) = Except.ok (b, rest)) :
    a.plain = b.plain ∧ ∃ t, b.positional = a.positional ++ [t] ∧ W ts = .ok (t, rest) := by
  split at h
  · cases h
  · obtain ⟨⟨t, us⟩, ht, h⟩ := bind_eq_ok.1 h
    cases h
    exact ⟨rfl, t, rfl, ht⟩

lemma marked_eq_ok {c : Prop} [Decidable c] {a b : Args} (h : (do
      if c then throw .badArguments
      meet ts
      let (_, us) ← W ts
      pure (a, us)) = Except.ok (b, rest)) : b = a := by
  split at h
  · cases h
  · obtain ⟨_, -, h⟩ := bind_eq_ok.1 h
    obtain ⟨_, -, h⟩ := bind_eq_ok.1 h
    cases h
    rfl

lemma argument_eq_ok {a b : Args} (h : argument W a ts = .ok (b, rest)) (hb : b.plain = true) :
    a.plain = true ∧ ∃ t, b.positional = a.positional ++ [t] ∧ W ts = .ok (t, rest) := by
  unfold argument at h
  split at h
  · rw [marked_eq_ok h] at hb
    simp [Args.plain] at hb
  · rw [marked_eq_ok h] at hb
    simp [Args.plain] at hb
  · obtain ⟨_, -, h⟩ := bind_eq_ok.1 h
    split at h
    · rw [marked_eq_ok h] at hb
      simp [Args.plain] at hb
    · obtain ⟨hplain, harg⟩ := positional_eq_ok h
      exact ⟨hplain.trans hb, harg⟩
  · obtain ⟨hplain, harg⟩ := positional_eq_ok h
    exact ⟨hplain.trans hb, harg⟩

/-- The words of arguments from a place on, which is the first argument or behind one. -/
inductive FromArg : Bool → List Expr → List Token → Prop
  | first {es : List Expr} {ws : List Token} : Derives (.args es) ws → FromArg true es ws
  | done : FromArg false [] []
  | comma {es : List Expr} {ws : List Token} : Derives (.args es) ws →
      FromArg false es (.symbol .comma :: ws)

lemma derives_args_cons {es : List Expr} {ws : List Token} (he : Derives (.whole e) us)
    (hes : FromArg false es ws) : Derives (.args (e :: es)) (us ++ ws) := by
  cases hes with
  | done =>
    rw [List.append_nil]
    exact .lastArg he
  | comma h => exact .arg he h

lemma covers_arguments (hW : Takes .whole W) {n : ℕ} {first : Bool} {a b : Args}
    (h : arguments W n first a ts = .ok (b, rest)) (hb : b.plain = true) :
    a.plain = true ∧ ∃ added, b.positional = a.positional ++ added ∧
      ∀ es, toExprs added = .ok es → ∃ ws, ts = ws ++ rest ∧ FromArg first es ws := by
  have hnothing : ∀ first es, toExprs [] = .ok es → FromArg first es [] := by
    intro first es hes
    cases hes
    cases first
    · exact .done
    · exact .first .noArgs
  induction n generalizing first a ts with
  | zero =>
    cases h
    exact ⟨hb, [], (List.append_nil _).symm, fun es hes => ⟨[], rfl, hnothing _ es hes⟩⟩
  | succ n ih =>
    unfold arguments at h
    split at h
    · cases h
      exact ⟨hb, [], (List.append_nil _).symm, fun es hes => ⟨[], rfl, hnothing _ es hes⟩⟩
    · obtain ⟨us, hus, h⟩ := ite_bind_eq_ok h
      -- the comma that every argument but the first has before it
      have hcomma : ∀ es ws, us = ws ++ rest → Derives (.args es) ws →
          ∃ ws', ts = ws' ++ rest ∧ FromArg first es ws' := by
        intro es ws hws hderives
        cases first with
        | true =>
          cases hus
          exact ⟨ws, hws, .first hderives⟩
        | false =>
          have hts : ts = .symbol .comma :: us := expect_eq_ok hus
          exact ⟨.symbol .comma :: ws, by rw [hts, hws]; rfl, .comma hderives⟩
      dsimp only at h
      split at h
      · cases h
        refine ⟨hb, [], (List.append_nil _).symm, fun es hes => hcomma es [] rfl ?_⟩
        cases hes
        exact .noArgs
      · obtain ⟨⟨a', vs⟩, ha', h⟩ := bind_eq_ok.1 h
        dsimp only at h
        obtain ⟨hplain, added, hadded, hderives⟩ := ih h
        obtain ⟨ha, t, ht, hread⟩ := argument_eq_ok ha' hplain
        refine ⟨ha, t :: added, by rw [hadded, ht, List.append_assoc]; rfl, fun es hes => ?_⟩
        obtain ⟨d, ds, hd, hds, rfl⟩ := toExprs_cons_eq_ok.1 hes
        obtain ⟨ws, hws, hargs⟩ := hderives ds hds
        obtain ⟨ws₀, hws₀, harg⟩ := hW _ _ _ hread d hd
        refine hcomma (d :: ds) (ws₀ ++ ws) ?_ (derives_args_cons harg hargs)
        rw [hws₀, hws, List.append_assoc]

lemma derives_name {k : ℕ} {f : String} (h : Derives (.part k (.name f)) us) :
    Derives (.part 3 (.name f)) us := by
  generalize hp : Phrase.part k (.name f) = p at h
  induction h generalizing k with
  | name hw =>
    cases hp
    exact .name hw
  | parens h =>
    cases hp
    exact .parens h
  | tighter _ ih =>
    cases hp
    exact ih rfl
  | _ => cases hp

lemma covers_callOf (hW : Takes .whole W) {k : ℕ} {callee : Tree}
    (hcallee : Covers (.part k) ts callee us) (h : callOf W callee us = .ok (t, rest)) :
    Covers (.part 3) ts t rest := by
  obtain ⟨⟨a, vs⟩, ha, h⟩ := bind_eq_ok.1 h
  cases h
  obtain ⟨us₁, hlparen, ha⟩ := bind_eq_ok.1 ha
  obtain ⟨⟨a, us₂⟩, hargs, ha⟩ := bind_eq_ok.1 ha
  obtain ⟨us₃, hrparen, ha⟩ := bind_eq_ok.1 ha
  cases ha
  intro e he
  obtain ⟨f, es, rfl, hplain, hes, rfl⟩ := toExpr_call_eq_ok he
  -- a call has a name as its callee, or it is no expression
  obtain ⟨fs, rfl, hf⟩ := hcallee (.name f) rfl
  obtain ⟨-, added, hadded, hderives⟩ := covers_arguments hW hargs hplain
  cases hadded
  obtain ⟨ws, rfl, hws⟩ := hderives es hes
  cases hws with
  | first hws =>
    refine ⟨fs ++ .symbol .lparen :: (ws ++ [.symbol .rparen]), ?_, .call (derives_name hf) hws⟩
    rw [expect_eq_ok hlparen, expect_eq_ok hrparen]
    simp

/-! ### Values -/

lemma strings_eq_ok {s : Points} (h : strings ts = .ok (s, rest)) :
    ∃ ss : List Points, ts = ss.map Token.text ++ rest ∧ s = ss.flatten := by
  induction ts generalizing s with
  | nil =>
    cases h
    exact ⟨[], rfl, rfl⟩
  | cons t ts ih =>
    cases t with
    | text first =>
      obtain ⟨_, -, h⟩ := bind_eq_ok.1 h
      obtain ⟨⟨more, us⟩, hstrings, h⟩ := bind_eq_ok.1 h
      cases h
      obtain ⟨ss, rfl, rfl⟩ := ih hstrings
      exact ⟨first :: ss, rfl, rfl⟩
    | _ =>
      cases h
      exact ⟨[], rfl, rfl⟩

lemma takes_primary (hW : Takes .whole W) : Takes (.part 3) (primary W) := by
  intro ts t rest h
  unfold primary at h
  split at h
  · rename_i w _
    obtain ⟨_, -, h⟩ := bind_eq_ok.1 h
    cases h
    intro e he
    refine ⟨[.name w], rfl, ?_⟩
    unfold ofName at he
    split at he
    · cases he
      exact .constant ‹_›
    · cases he
      exact .name ‹_›
  · obtain ⟨_, -, h⟩ := bind_eq_ok.1 h
    cases h
    intro e he
    cases he
    exact ⟨[.int _], rfl, .int _⟩
  · obtain ⟨_, -, h⟩ := bind_eq_ok.1 h
    cases h
    intro e he
    cases he
    exact ⟨[.float _], rfl, .float _⟩
  · -- strings side by side are one text
    obtain ⟨⟨s, us⟩, hstrings, h⟩ := bind_eq_ok.1 h
    cases h
    obtain ⟨_, -, hstrings⟩ := bind_eq_ok.1 hstrings
    obtain ⟨⟨more, vs⟩, hmore, hstrings⟩ := bind_eq_ok.1 hstrings
    cases hstrings
    obtain ⟨ss, rfl, rfl⟩ := strings_eq_ok hmore
    intro e he
    cases he
    exact ⟨_, rfl, .texts (List.cons_ne_nil _ ss)⟩
  · obtain ⟨_, -, h⟩ := bind_eq_ok.1 h
    -- parentheses: one expression or a tuple
    obtain ⟨⟨d, us⟩, hd, h⟩ := bind_eq_ok.1 h
    obtain ⟨vs, hvs, h⟩ := bind_eq_ok.1 h
    cases h
    intro e he
    obtain ⟨ws, rfl, hws⟩ := covers_oneOrTuple hW hd e he
    refine ⟨_, ?_, .parens hws⟩
    rw [expect_eq_ok hvs]
    simp
  · obtain ⟨_, -, h⟩ := bind_eq_ok.1 h
    obtain ⟨us, -, h⟩ := bind_eq_ok.1 h
    obtain ⟨vs, -, h⟩ := bind_eq_ok.1 h
    cases h
    -- a list or a dictionary is no expression
    exact covers_other _
  · obtain ⟨_, -, h⟩ := bind_eq_ok.1 h
    obtain ⟨us, -, h⟩ := bind_eq_ok.1 h
    obtain ⟨vs, -, h⟩ := bind_eq_ok.1 h
    cases h
    exact covers_other _
  · cases h

lemma member_eq_ok (h : member ts = .ok (t, rest)) : ∃ c, t = .other c := by
  obtain ⟨us, -, h⟩ := bind_eq_ok.1 h
  split at h
  · cases h
    exact ⟨_, rfl⟩
  · cases h
    exact ⟨_, rfl⟩
  · cases h

lemma covers_postfixStep (hW : Takes .whole W) {d : Tree} (hd : Covers (.part 3) ts d us)
    (h : postfixStep W d us = some (.ok (t, rest))) : Covers (.part 3) ts t rest := by
  unfold postfixStep at h
  split at h
  · obtain ⟨_, -, h⟩ := bind_eq_ok.1 (Option.some.inj h)
    obtain ⟨c, rfl⟩ := member_eq_ok h
    exact covers_other c
  · obtain ⟨_, -, h⟩ := bind_eq_ok.1 (Option.some.inj h)
    obtain ⟨_, -, h⟩ := bind_eq_ok.1 h
    obtain ⟨_, -, h⟩ := bind_eq_ok.1 h
    cases h
    exact covers_other .item
  · exact covers_callOf hW hd (Option.some.inj h)
  · cases h

lemma takes_value (hW : Takes .whole W) : Takes (.part 3) (value W) := by
  intro ts t rest h
  obtain ⟨⟨d, us⟩, hd, h⟩ := bind_eq_ok.1 h
  exact repeated_keeps (P := fun t rest => Covers (.part 3) ts t rest)
    (fun _ _ _ _ ha hstep => covers_postfixStep hW ha hstep) (takes_primary hW _ _ _ hd) h

lemma covers_sign {s : Sign} (h : Covers (.part 2) ts t rest) :
    Covers (.part 2) (.symbol s.symbol :: ts) (.sign s t) rest := by
  intro e he
  obtain ⟨d, hd, rfl⟩ := toExpr_sign_eq_ok.1 he
  obtain ⟨ws, rfl, hws⟩ := h d hd
  exact ⟨.symbol s.symbol :: ws, rfl, .unary hws⟩

lemma takes_signed (hW : Takes .whole W) : Takes (.part 2) (signed W) := by
  intro ts
  fun_induction signed W ts with
  | case1 us ih =>
    intro t rest h
    obtain ⟨_, -, h⟩ := bind_eq_ok.1 h
    obtain ⟨⟨d, vs⟩, hd, h⟩ := bind_eq_ok.1 h
    cases h
    exact covers_sign (s := .minus) (ih d _ hd)
  | case2 us ih =>
    intro t rest h
    obtain ⟨_, -, h⟩ := bind_eq_ok.1 h
    obtain ⟨⟨d, vs⟩, hd, h⟩ := bind_eq_ok.1 h
    cases h
    exact covers_sign (s := .plus) (ih d _ hd)
  | case3 ts =>
    intro t rest h
    exact (takes_value hW _ _ _ h).mono fun _ _ => .tighter

/-! ### Filters and tests -/

lemma filter_eq_ok (h : filter W ts = .ok (t, rest)) : ∃ c, t = .other c := by
  obtain ⟨us, -, h⟩ := bind_eq_ok.1 h
  split at h
  · obtain ⟨⟨a, vs⟩, -, h⟩ := bind_eq_ok.1 h
    cases h
    exact ⟨_, rfl⟩
  · cases h
    exact ⟨_, rfl⟩

lemma test_eq_ok (h : test W ts = .ok (t, rest)) : ∃ c, t = .other c := by
  obtain ⟨us, -, h⟩ := bind_eq_ok.1 h
  obtain ⟨vs, -, h⟩ := ite_bind_eq_ok h
  obtain ⟨ws, -, h⟩ := bind_eq_ok.1 h
  dsimp only at h
  split at h
  · obtain ⟨⟨a, vs⟩, -, h⟩ := bind_eq_ok.1 h
    cases h
    exact ⟨_, rfl⟩
  · split at h
    · split at h
      · cases h
      · obtain ⟨⟨a, vs⟩, -, h⟩ := bind_eq_ok.1 h
        cases h
        exact ⟨_, rfl⟩
    · cases h
      exact ⟨_, rfl⟩

lemma covers_filterStep (hW : Takes .whole W) {d : Tree} (hd : Covers (.part 2) ts d us)
    (h : filterStep W d us = some (.ok (t, rest))) : Covers (.part 2) ts t rest := by
  unfold filterStep at h
  split at h
  · obtain ⟨_, -, h⟩ := bind_eq_ok.1 (Option.some.inj h)
    obtain ⟨c, rfl⟩ := filter_eq_ok h
    exact covers_other c
  · split at h
    · obtain ⟨c, rfl⟩ := test_eq_ok (Option.some.inj h)
      exact covers_other c
    · cases h
  · exact (covers_callOf hW hd (Option.some.inj h)).mono fun _ _ => .tighter
  · cases h

lemma takes_unary (hW : Takes .whole W) : Takes (.part 2) (unary W) := by
  intro ts t rest h
  obtain ⟨⟨d, us⟩, hd, h⟩ := bind_eq_ok.1 h
  exact repeated_keeps (P := fun t rest => Covers (.part 2) ts t rest)
    (fun _ _ _ _ ha hstep => covers_filterStep hW ha hstep) (takes_signed hW _ _ _ hd) h

/-! ### Operators -/

lemma takes_chain_other {operand : Reader Tree} {join? : Token → Option (Tree → Tree → Tree)}
    (hoperand : Takes p operand)
    (hjoin : ∀ t join, join? t = some join → ∃ c, join = fun _ _ => .other c) :
    Takes p (chain operand join?) := by
  refine takes_chain hoperand (fun _ _ h => h) fun t join hj ts l r us rest _ _ => ?_
  obtain ⟨c, rfl⟩ := hjoin t join hj
  exact covers_other c

lemma takes_power (hW : Takes .whole W) : Takes (.part 2) (power W) := by
  refine takes_chain_other (takes_unary hW) fun t join h => ?_
  split at h
  · exact ⟨_, (Option.some.inj h).symm⟩
  · cases h

lemma takes_product (hW : Takes .whole W) : Takes (.part 1) (product W) := by
  refine takes_chain (takes_power hW) (fun _ _ => .tighter) fun t join h ts l r us rest hl hr => ?_
  split at h <;> cases h
  · exact covers_op (o := .mul) hl hr
  · exact covers_op (o := .div) hl hr
  · exact covers_op (o := .mod) hl hr
  · exact covers_other _

lemma takes_joined (hW : Takes .whole W) : Takes (.part 1) (joined W) := by
  refine takes_chain_other (takes_product hW) fun t join h => ?_
  split at h
  · exact ⟨_, (Option.some.inj h).symm⟩
  · cases h

lemma takes_sum (hW : Takes .whole W) : Takes (.part 0) (sum W) := by
  refine takes_chain (takes_joined hW) (fun _ _ => .tighter) fun t join h ts l r us rest hl hr => ?_
  split at h <;> cases h
  · exact covers_op (o := .add) hl hr
  · exact covers_op (o := .sub) hl hr

/-! ### Whole expressions -/

lemma compared_eq_ok (h : (do
      meet us
      let (_, us) ← sum W us
      pure (.other .compare, us)) = Except.ok (t, rest)) : ∃ c, t = .other c := by
  obtain ⟨_, -, h⟩ := bind_eq_ok.1 h
  obtain ⟨_, -, h⟩ := bind_eq_ok.1 h
  cases h
  exact ⟨_, rfl⟩

lemma compareStep_eq_ok {d : Tree} (h : compareStep W d us = some (.ok (t, rest))) :
    ∃ c, t = .other c := by
  unfold compareStep at h
  dsimp only at h
  split at h
  · split at h
    · exact compared_eq_ok (Option.some.inj h)
    · cases h
  · split at h
    · exact compared_eq_ok (Option.some.inj h)
    · split at h
      · split at h
        · cases h
        · split at h
          · exact compared_eq_ok (Option.some.inj h)
          · cases h
        · cases h
      · cases h
  · cases h

lemma takes_comparison (hW : Takes .whole W) : Takes (.part 0) (comparison W) := by
  intro ts t rest h
  obtain ⟨⟨d, us⟩, hd, h⟩ := bind_eq_ok.1 h
  refine repeated_keeps (P := fun t rest => Covers (.part 0) ts t rest)
    (fun _ _ _ _ _ hstep => ?_) (takes_sum hW _ _ _ hd) h
  obtain ⟨c, rfl⟩ := compareStep_eq_ok hstep
  exact covers_other c

lemma atName_append {w : String} (h : atName w (us ++ rest) = false) : atName w us = false := by
  cases us with
  | nil => rfl
  | cons t us => cases t <;> exact h

lemma takes_negation (hW : Takes .whole W) : Takes .whole (negation W) := by
  intro ts
  -- a negation is no expression, so only the comparison counts
  have hcomparison : atName "not" ts = false → ∀ t rest, comparison W ts = .ok (t, rest) →
      Covers .whole ts t rest := by
    intro hnot t rest h e he
    obtain ⟨ws, rfl, hws⟩ := takes_comparison hW _ _ _ h e he
    exact ⟨ws, rfl, .whole hws (atName_append hnot)⟩
  unfold negation
  split
  · intro t rest h
    split at h
    · obtain ⟨_, -, h⟩ := bind_eq_ok.1 h
      obtain ⟨_, -, h⟩ := bind_eq_ok.1 h
      cases h
      exact covers_other .not
    · exact hcomparison (beq_eq_false_iff_ne.2 ‹_›) t rest h
  · rename_i hname
    refine hcomparison ?_
    unfold atName
    split
    · exact absurd rfl (hname _ _)
    · rfl

lemma takes_disjunction (hW : Takes .whole W) : Takes .whole (disjunction W) := by
  have hconjunction : Takes .whole (conjunction W) := by
    refine takes_chain_other (takes_negation hW) fun t join h => ?_
    split at h
    · split at h
      · exact ⟨_, (Option.some.inj h).symm⟩
      · cases h
    · cases h
  refine takes_chain_other hconjunction fun t join h => ?_
  split at h
  · split at h
    · exact ⟨_, (Option.some.inj h).symm⟩
    · cases h
  · cases h

lemma conditionStep_eq_ok {d : Tree} (h : conditionStep W d us = some (.ok (t, rest))) :
    ∃ c, t = .other c := by
  unfold conditionStep at h
  split at h
  · obtain ⟨_, -, h⟩ := bind_eq_ok.1 (Option.some.inj h)
    obtain ⟨_, -, h⟩ := bind_eq_ok.1 h
    dsimp only at h
    split at h
    · obtain ⟨_, -, h⟩ := bind_eq_ok.1 h
      obtain ⟨_, -, h⟩ := bind_eq_ok.1 h
      cases h
      exact ⟨_, rfl⟩
    · cases h
      exact ⟨_, rfl⟩
  · cases h

lemma takes_conditional (hW : Takes .whole W) : Takes .whole (conditional W) := by
  intro ts t rest h
  obtain ⟨⟨d, us⟩, hd, h⟩ := bind_eq_ok.1 h
  refine repeated_keeps (P := fun t rest => Covers .whole ts t rest)
    (fun _ _ _ _ _ hstep => ?_) (takes_disjunction hW _ _ _ hd) h
  obtain ⟨c, rfl⟩ := conditionStep_eq_ok hstep
  exact covers_other c

/-- **The reader of whole expressions takes phrases off**, however deep it may nest. -/
theorem takes_expression (n : ℕ) : Takes .whole (expression n) := by
  induction n with
  | zero =>
    intro ts t rest h
    cases h
  | succ n ih => exact takes_conditional ih

/-- The words of a print statement that is read as an expression derive this expression, and the
end of the statement is behind them. -/
theorem covers_statement (h : statement ts = .ok (t, rest)) :
    Covers .whole ts t (.printEnd :: rest) := by
  obtain ⟨_, -, h⟩ := bind_eq_ok.1 h
  obtain ⟨⟨d, us⟩, hd, h⟩ := bind_eq_ok.1 h
  dsimp only at h
  split at h
  · obtain ⟨_, -, h⟩ := bind_eq_ok.1 h
    cases h
    exact covers_oneOrTuple (takes_expression _) hd
  · cases h

end Daybook
