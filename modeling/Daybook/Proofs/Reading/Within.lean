import Mathlib.Data.List.Infix
import Daybook.Expr.Tree
import Daybook.Proofs.Evaluation.Basic

/-!
Readers stay within their words. What a reader leaves is an end of what it was given, and a word
that it reports as faulty is among what it was given; so a text without faulty words is refused
for its syntax only.
-/

namespace Daybook

open Daybook.Tree

/-- A result within the given words: what is left of them is an end of them, and a faulty word
that is reported is one of them. -/
structure Within {α : Type} (ts : List Token) (left : α → List Token) (x : Except SyntaxFault α) :
    Prop where
  left : ∀ a, x = .ok a → left a <:+ ts
  fault : ∀ w, x = .error (.word w) → .fault w ∈ ts

/-- The reader gives results within the words `ts` on every end of them. -/
def Tree.Reader.Within {α : Type} (ts : List Token) (r : Reader α) : Prop :=
  ∀ us, us <:+ ts → Daybook.Within ts Prod.snd (r us)

/-- The same for what only leaves words. -/
def SkipsWithin (ts : List Token) (f : List Token → Except SyntaxFault (List Token)) : Prop :=
  ∀ us, us <:+ ts → Within ts id (f us)

namespace Within

variable {α β : Type} {ts us : List Token} {left : α → List Token} {left' : β → List Token}
  {x y : Except SyntaxFault α}

lemma ok {a : α} (h : left a <:+ ts) : Within ts left (.ok a) where
  left b hb := by
    cases hb
    exact h
  fault _ hw := by cases hw

lemma error {f : SyntaxFault} (h : ∀ w, f ≠ .word w) : Within ts left (.error f) where
  left _ ha := by cases ha
  fault w hw := absurd (Except.error.inj hw) (h w)

lemma wordError {w : WordFault} (h : .fault w ∈ ts) : Within ts left (.error (.word w)) where
  left _ ha := by cases ha
  fault v hv := by
    cases hv
    exact h

lemma bind {f : α → Except SyntaxFault β} (hx : Within ts left x)
    (hf : ∀ a, left a <:+ ts → Within ts left' (f a)) : Within ts left' (x >>= f) where
  left b hb := by
    obtain ⟨a, ha, hb⟩ := bind_eq_ok.1 hb
    exact (hf a (hx.left a ha)).left b hb
  fault w hw := by
    rcases bind_eq_error.1 hw with hw | ⟨a, ha, hw⟩
    · exact hx.fault w hw
    · exact (hf a (hx.left a ha)).fault w hw

lemma andThen {x : Except SyntaxFault (α × List Token)}
    {f : α × List Token → Except SyntaxFault β} (hx : Within ts Prod.snd x)
    (hf : ∀ a us, us <:+ ts → Within ts left' (f (a, us))) : Within ts left' (x >>= f) :=
  hx.bind fun a ha => hf a.1 a.2 ha

lemma ite_bind {c : Prop} [Decidable c] {f : α → Except SyntaxFault β} (hx : Within ts left x)
    (hy : Within ts left y) (hf : ∀ a, left a <:+ ts → Within ts left' (f a)) :
    Within ts left' (if c then x >>= f else y >>= f) := by
  split
  · exact hx.bind hf
  · exact hy.bind hf

lemma map_snd {x : Except SyntaxFault (α × List Token)} (hx : Within ts Prod.snd x) :
    Within ts id ((·.2) <$> x) :=
  hx.bind fun _ ha => .ok ha

end Within

lemma suffix_of_cons {t : Token} {ts us : List Token} (h : t :: us <:+ ts) : us <:+ ts :=
  (List.suffix_cons t us).trans h

namespace Tree

variable {α : Type} {ts us : List Token}

lemma meet_within (h : us <:+ ts) : Within ts (fun _ => us) (meet us) := by
  unfold meet
  split
  · exact .wordError (h.subset List.mem_cons_self)
  · exact .ok h

lemma next_within (h : us <:+ ts) : Within ts id (next us) := by
  have htail : us.tail <:+ ts := us.tail_suffix.trans h
  exact (meet_within htail).bind fun _ h => .ok h

lemma due_ne_word (what : String) (ts : List Token) (w : WordFault) : due what ts ≠ .word w := by
  unfold due
  split <;> nofun

lemma expect_within (s : Symbol) (h : us <:+ ts) : Within ts id (expect s us) := by
  unfold expect
  split
  · split
    · exact next_within h
    · exact .error (due_ne_word _ _)
  · exact .error (due_ne_word _ _)

lemma expectName_within : Reader.Within ts expectName := by
  intro us h
  unfold expectName
  split
  · exact (meet_within (suffix_of_cons h)).bind fun _ h => .ok h
  · exact .error (due_ne_word _ _)

lemma repeated_within {step : α → List Token → Option (Except SyntaxFault (α × List Token))}
    (hstep : ∀ a us x, us <:+ ts → step a us = some x → Within ts Prod.snd x) (n : ℕ) (a : α) :
    Reader.Within ts (repeated step n a) := by
  induction n generalizing a with
  | zero => exact fun us h => .ok h
  | succ n ih =>
    intro us h
    unfold repeated
    split
    · exact .ok h
    · exact ⟨nofun, fun w hw => (hstep a us _ h ‹_›).fault w hw⟩
    · exact ih _ _ ((hstep a us _ h ‹_›).left _ rfl)

lemma chain_within {operand : Reader Tree} {join? : Token → Option (Tree → Tree → Tree)}
    (hoperand : operand.Within ts) : Reader.Within ts (chain operand join?) := by
  intro us h
  refine (hoperand us h).andThen fun first us h => repeated_within (fun l us x h hx => ?_) _ _ _ h
  split at hx
  · cases hx
  · obtain ⟨join, -, rfl⟩ := Option.map_eq_some_iff.1 hx
    exact (meet_within (suffix_of_cons h)).bind fun _ h =>
      (hoperand _ h).andThen fun r us h => .ok h

/-! ### Values -/

lemma items_within {item : Reader Unit} (hitem : item.Within ts) (closer : Symbol) (n : ℕ)
    (first : Bool) : SkipsWithin ts (items item closer n first) := by
  induction n generalizing first with
  | zero => exact fun us h => .ok h
  | succ n ih =>
    intro us h
    unfold items
    split
    · exact .ok h
    · refine .ite_bind (.ok h) (expect_within .comma h) fun us h => ?_
      dsimp only
      split
      · exact .ok h
      · exact (hitem us h).andThen fun _ us h => ih false us h

section

variable {W : Reader Tree} (hW : W.Within ts)

include hW

lemma positional_within {a : Args} (h : us <:+ ts) : Within ts Prod.snd (do
    if a.named || a.star || a.doubleStar then throw .badArguments
    let (e, us) ← W us
    pure ({ a with positional := a.positional ++ [e] }, us)) := by
  split
  · exact .error nofun
  · exact (hW _ h).andThen fun _ _ h => .ok h

lemma marked_within {c : Prop} [Decidable c] {a : Args} (h : us <:+ ts) :
    Within ts Prod.snd (do
      if c then throw .badArguments
      meet us
      let (_, us) ← W us
      pure (a, us)) := by
  split
  · exact .error nofun
  · exact (meet_within h).bind fun _ h => (hW _ h).andThen fun _ _ h => .ok h

lemma argument_within (a : Args) : Reader.Within ts (argument W a) := by
  intro us h
  unfold argument
  split
  · exact marked_within hW (suffix_of_cons h)
  · exact marked_within hW (suffix_of_cons h)
  · refine (meet_within (suffix_of_cons h)).bind fun _ h' => ?_
    split
    · exact marked_within hW (suffix_of_cons h')
    · exact positional_within hW h
  · exact positional_within hW h

lemma arguments_within (n : ℕ) (first : Bool) (a : Args) :
    Reader.Within ts (arguments W n first a) := by
  induction n generalizing first a with
  | zero => exact fun us h => .ok h
  | succ n ih =>
    intro us h
    unfold arguments
    split
    · exact .ok h
    · refine .ite_bind (.ok h) (expect_within .comma h) fun us h => ?_
      dsimp only
      split
      · exact .ok h
      · exact (argument_within hW a us h).andThen fun a us h => ih false a us h

lemma callArgs_within : Reader.Within ts (callArgs W) := by
  intro us h
  refine (expect_within .lparen h).bind fun us h => ?_
  refine (arguments_within hW _ _ _ us h).andThen fun a us h => ?_
  exact (expect_within .rparen h).bind fun us h => .ok h

lemma callOf_within (callee : Tree) : Reader.Within ts (callOf W callee) := fun us h =>
  (callArgs_within hW us h).andThen fun _ _ h => .ok h

end

lemma tupleItems_within {item : Reader Tree} (hitem : item.Within ts) (n : ℕ) (es : List Tree) :
    Reader.Within ts (tupleItems item n es) := by
  induction n generalizing es with
  | zero => exact fun us h => .ok h
  | succ n ih =>
    intro us h
    unfold tupleItems
    refine .ite_bind (.ok h) (expect_within .comma h) fun us h => ?_
    dsimp only
    split
    · exact .ok h
    · refine (hitem us h).andThen fun e us h => ?_
      dsimp only
      split
      · exact ih _ us h
      · exact .ok h

lemma oneOrTuple_within {item : Reader Tree} (hitem : item.Within ts) (inParens : Bool) :
    Reader.Within ts (oneOrTuple item inParens) := by
  intro us h
  refine (tupleItems_within hitem _ _ us h).andThen fun es us h => ?_
  dsimp only
  split
  · exact .ok h
  · split
    · exact .ok h
    · exact .error nofun
  · exact .ok h

lemma strings_within : Reader.Within ts strings := by
  intro us h
  induction us with
  | nil => exact .ok h
  | cons t us ih =>
    cases t with
    | text s =>
      exact (meet_within (suffix_of_cons h)).bind fun _ h => (ih h).andThen fun _ _ h => .ok h
    | _ => exact .ok h

section

variable {W : Reader Tree} (hW : W.Within ts)

include hW

lemma pair_within : Reader.Within ts (pair W) := fun us h =>
  (hW us h).andThen fun _ _ h => (expect_within .colon h).bind fun us h =>
    (hW us h).andThen fun _ _ h => .ok h

lemma skipped_within : Reader.Within ts fun us => (fun (_, us) => ((), us)) <$> W us := fun us h =>
  (hW us h).bind fun _ h => .ok h

lemma primary_within : Reader.Within ts (primary W) := by
  intro us h
  unfold primary
  split
  · exact (meet_within (suffix_of_cons h)).bind fun _ h => .ok h
  · exact (meet_within (suffix_of_cons h)).bind fun _ h => .ok h
  · exact (meet_within (suffix_of_cons h)).bind fun _ h => .ok h
  · exact (strings_within _ h).andThen fun _ _ h => .ok h
  · refine (meet_within (suffix_of_cons h)).bind fun _ h => ?_
    refine (oneOrTuple_within hW true _ h).andThen fun e us h => ?_
    exact (expect_within .rparen h).bind fun us h => .ok h
  · refine (meet_within (suffix_of_cons h)).bind fun _ h => ?_
    refine (items_within (skipped_within hW) .rbracket _ _ _ h).bind fun us h => ?_
    exact (expect_within .rbracket h).bind fun us h => .ok h
  · refine (meet_within (suffix_of_cons h)).bind fun _ h => ?_
    refine (items_within (pair_within hW) .rbrace _ _ _ h).bind fun us h => ?_
    exact (expect_within .rbrace h).bind fun us h => .ok h
  · exact .error nofun

lemma slicePart_within : SkipsWithin ts (slicePart W) := by
  intro us h
  unfold slicePart
  split
  · exact .ok h
  · exact (hW us h).map_snd

lemma subscript_within : Reader.Within ts (subscript W) := by
  intro us h
  refine .ite_bind (.ok h) (hW us h).map_snd fun us h => ?_
  dsimp only
  split
  · refine (next_within h).bind fun us h => ?_
    refine (slicePart_within hW us h).bind fun us h => ?_
    split
    · refine (next_within h).bind fun us h => ?_
      exact .ite_bind (.ok h) (hW us h).map_snd fun us h => .ok h
    · exact .ok h
  · exact .ok h

lemma subscripts_within (n : ℕ) (first : Bool) : SkipsWithin ts (subscripts W n first) := by
  induction n generalizing first with
  | zero => exact fun us h => .ok h
  | succ n ih =>
    intro us h
    unfold subscripts
    split
    · exact .ok h
    · refine .ite_bind (.ok h) (expect_within .comma h) fun us h => ?_
      exact (subscript_within hW us h).andThen fun _ us h => ih false us h

omit hW in
lemma member_within : Reader.Within ts member := by
  intro us h
  refine (next_within h).bind fun rest hrest => ?_
  split
  · exact .ok hrest
  · exact .ok hrest
  · exact .error nofun

lemma postfixStep_within (e : Tree) (us : List Token) (x : Except SyntaxFault (Tree × List Token))
    (h : us <:+ ts) (hx : postfixStep W e us = some x) : Within ts Prod.snd x := by
  unfold postfixStep at hx
  split at hx <;> cases hx
  · exact (meet_within (suffix_of_cons h)).bind fun _ h => member_within _ h
  · refine (meet_within (suffix_of_cons h)).bind fun _ h => ?_
    refine (subscripts_within hW _ _ _ h).bind fun us h => ?_
    exact (expect_within .rbracket h).bind fun us h => .ok h
  · exact callOf_within hW e _ h

lemma value_within : Reader.Within ts (value W) := fun us h =>
  (primary_within hW us h).andThen fun e us h =>
    repeated_within (postfixStep_within hW) us.length e us h

lemma signed_within : Reader.Within ts (signed W) := by
  intro us h
  induction us with
  | nil => exact value_within hW [] h
  | cons t us ih =>
    cases t with
    | symbol s =>
      cases s with
      | sub | add =>
        exact (meet_within (suffix_of_cons h)).bind fun _ h => (ih h).andThen fun _ _ h => .ok h
      | _ => exact value_within hW _ h
    | _ => exact value_within hW _ h

/-! ### Filters and tests -/

omit hW in
lemma dotted_within (n : ℕ) : SkipsWithin ts (dotted n) := by
  induction n with
  | zero => exact fun us h => .ok h
  | succ n ih =>
    intro us h
    unfold dotted
    split
    · refine (next_within h).bind fun us h => ?_
      exact (expectName_within us h).andThen fun _ us h => ih us h
    · exact .ok h

omit hW in
lemma dottedName_within : SkipsWithin ts dottedName := fun us h =>
  (expectName_within us h).andThen fun _ us h => dotted_within us.length us h

lemma filter_within : Reader.Within ts (filter W) := by
  intro us h
  refine (dottedName_within us h).bind fun us h => ?_
  dsimp only
  split
  · exact (callArgs_within hW us h).andThen fun _ _ h => .ok h
  · exact .ok h

lemma test_within : Reader.Within ts (test W) := by
  intro us h
  refine (next_within h).bind fun us h => ?_
  refine .ite_bind (next_within h) (.ok h) fun us h => ?_
  refine (dottedName_within us h).bind fun us h => ?_
  dsimp only
  split
  · exact (callArgs_within hW us h).andThen fun _ _ h => .ok h
  · split
    · split
      · exact .error nofun
      · exact (value_within hW us h).andThen fun _ _ h => .ok h
    · exact .ok h

lemma pipeStep_within (e : Tree) (us : List Token) (x : Except SyntaxFault (Tree × List Token))
    (h : us <:+ ts) (hx : pipeStep W e us = some x) : Within ts Prod.snd x := by
  unfold pipeStep at hx
  split at hx <;> cases hx
  exact (meet_within (suffix_of_cons h)).bind fun _ h => filter_within hW _ h

lemma filterStep_within (e : Tree) (us : List Token) (x : Except SyntaxFault (Tree × List Token))
    (h : us <:+ ts) (hx : filterStep W e us = some x) : Within ts Prod.snd x := by
  unfold filterStep at hx
  split at hx
  · exact pipeStep_within hW e _ x h hx
  · split at hx <;> cases hx
    exact test_within hW _ h
  · cases hx
    exact callOf_within hW e _ h
  · cases hx

lemma unary_within : Reader.Within ts (unary W) := fun us h =>
  (signed_within hW us h).andThen fun e us h =>
    repeated_within (filterStep_within hW) us.length e us h

/-! ### Operators and whole expressions -/

lemma power_within : Reader.Within ts (power W) := chain_within (unary_within hW)

lemma product_within : Reader.Within ts (product W) := chain_within (power_within hW)

lemma joined_within : Reader.Within ts (joined W) := chain_within (product_within hW)

lemma sum_within : Reader.Within ts (sum W) := chain_within (joined_within hW)

lemma compared_within (h : us <:+ ts) : Within ts Prod.snd (do
    meet us
    let (_, us) ← sum W us
    pure (Tree.other .compare, us)) :=
  (meet_within h).bind fun _ h => (sum_within hW _ h).andThen fun _ _ h => .ok h

lemma compareStep_within (e : Tree) (us : List Token) (x : Except SyntaxFault (Tree × List Token))
    (h : us <:+ ts) (hx : compareStep W e us = some x) : Within ts Prod.snd x := by
  unfold compareStep at hx
  dsimp only at hx
  split at hx
  · split at hx <;> cases hx
    exact compared_within hW (suffix_of_cons h)
  · split at hx
    · cases hx
      exact compared_within hW (suffix_of_cons h)
    · split at hx
      · have hrest := suffix_of_cons h
        split at hx
        · cases hx
          exact .wordError (hrest.subset List.mem_cons_self)
        · split at hx <;> cases hx
          exact compared_within hW (suffix_of_cons hrest)
        · cases hx
      · cases hx
  · cases hx

lemma comparison_within : Reader.Within ts (comparison W) := fun us h =>
  (sum_within hW us h).andThen fun e us h =>
    repeated_within (compareStep_within hW) us.length e us h

lemma negation_within : Reader.Within ts (negation W) := by
  intro us h
  induction us with
  | nil => exact comparison_within hW [] h
  | cons t us ih =>
    cases t with
    | name w =>
      unfold negation
      split
      · exact (meet_within (suffix_of_cons h)).bind fun _ h => (ih h).andThen fun _ _ h => .ok h
      · exact comparison_within hW _ h
    | _ => exact comparison_within hW _ h

lemma disjunction_within : Reader.Within ts (disjunction W) :=
  chain_within (chain_within (negation_within hW))

lemma conditionStep_within (e : Tree) (us : List Token)
    (x : Except SyntaxFault (Tree × List Token)) (h : us <:+ ts)
    (hx : conditionStep W e us = some x) : Within ts Prod.snd x := by
  unfold conditionStep at hx
  split at hx <;> cases hx
  refine (next_within h).bind fun us h => ?_
  refine (disjunction_within hW us h).andThen fun _ us h => ?_
  dsimp only
  split
  · refine (next_within h).bind fun us h => ?_
    exact (hW us h).andThen fun _ _ h => .ok h
  · exact .ok h

lemma conditional_within : Reader.Within ts (conditional W) := fun us h =>
  (disjunction_within hW us h).andThen fun e us h =>
    repeated_within (conditionStep_within hW) us.length e us h

end

/-- **The reader of whole expressions stays within its words.** -/
theorem expression_within (n : ℕ) : Reader.Within ts (expression n) := by
  induction n with
  | zero => exact fun us _ => .error nofun
  | succ n ih => exact conditional_within ih

theorem statement_within : Reader.Within ts statement := by
  intro us h
  refine (meet_within h).bind fun _ h => ?_
  refine (oneOrTuple_within (expression_within _) false us h).andThen fun e us h => ?_
  dsimp only
  split
  · exact (meet_within (suffix_of_cons h)).bind fun _ h => .ok h
  · exact .error (due_ne_word _ _)

end Tree

end Daybook
