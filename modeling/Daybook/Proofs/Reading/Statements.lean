import Daybook.Expr.Statement
import Daybook.Proofs.Reading.Within

/-!
Checking statements stays within their words. Whatever stands behind a print statement, a faulty
word that is reported there is one of its words.
-/

namespace Daybook

open Daybook.Tree

namespace Statement

variable {ts : List Token}

/-! ### Words -/

lemma whole_within : Reader.Within ts whole := fun us h => expression_within _ us h

lemma unconditional_within : Reader.Within ts unconditional := fun us h =>
  oneOrTuple_within (disjunction_within (expression_within _)) false us h

lemma expectBlockEnd_within : SkipsWithin ts expectBlockEnd := by
  intro us h
  unfold expectBlockEnd
  split
  · exact (meet_within (suffix_of_cons h)).bind fun _ h => .ok h
  · exact .error (due_ne_word _ _)

lemma expectWord_within (w : String) : SkipsWithin ts (expectWord w) := by
  intro us h
  unfold expectWord
  split
  · exact next_within h
  · exact .error (due_ne_word _ _)

lemma skipWord_within (w : String) : SkipsWithin ts (skipWord w) := by
  intro us h
  unfold skipWord
  split
  · exact next_within h
  · exact .ok h

lemma skipPair_within (firsts : List String) (second : String) :
    SkipsWithin ts (skipPair firsts second) := by
  intro us h
  unfold skipPair
  split
  · split
    · refine (meet_within (suffix_of_cons h)).bind fun _ hrest => ?_
      split
      · exact next_within hrest
      · exact .ok h
    · exact .ok h
  · exact .ok h

/-! ### Targets -/

lemma reference_within : Reader.Within ts reference := by
  intro us h
  unfold reference
  split
  · refine (meet_within (suffix_of_cons h)).bind fun _ h => ?_
    split
    · refine (next_within h).bind fun us h => ?_
      exact (expectName_within us h).andThen fun _ us h => .ok h
    · exact .ok h
  · exact primary_within whole_within _ h

lemma target_within {item : Reader Tree} (hitem : item.Within ts) :
    SkipsWithin ts (target item) := by
  intro us h
  refine (oneOrTuple_within hitem false us h).andThen fun t us h => ?_
  dsimp only
  split
  · exact .ok h
  · exact .error nofun

lemma targetName_within : Reader.Within ts targetName := by
  intro us h
  refine (expectName_within us h).andThen fun w us h => ?_
  dsimp only
  split
  · exact .error nofun
  · exact .ok h

lemma parameters_within (n : ℕ) (first valued : Bool) :
    SkipsWithin ts (parameters n first valued) := by
  induction n generalizing first valued with
  | zero => exact fun us h => .ok h
  | succ n ih =>
    intro us h
    unfold parameters
    split
    · exact .ok h
    · refine .ite_bind (.ok h) (expect_within .comma h) fun us h => ?_
      refine (targetName_within us h).andThen fun _ us h => ?_
      dsimp only
      split
      · refine (next_within h).bind fun us h => ?_
        exact (whole_within us h).andThen fun _ us h => ih false true us h
      · split
        · exact .error nofun
        · exact ih false valued us h

lemma signature_within : SkipsWithin ts signature := by
  intro us h
  refine (expect_within .lparen h).bind fun us h => ?_
  refine (parameters_within _ true false us h).bind fun us h => ?_
  exact expect_within .rparen h

/-! ### Statements without a body -/

lemma extendsTag_within : Reader.Within ts extendsTag := fun us h =>
  (whole_within us h).andThen fun _ _ h => .ok h

lemma includeTag_within : Reader.Within ts includeTag := by
  intro us h
  refine (whole_within us h).andThen fun _ us h => ?_
  refine (skipPair_within _ _ us h).bind fun us h => ?_
  exact (skipPair_within _ _ us h).bind fun us h => .ok h

lemma importTag_within : Reader.Within ts importTag := by
  intro us h
  refine (whole_within us h).andThen fun _ us h => ?_
  refine (expectWord_within "as" us h).bind fun us h => ?_
  refine (targetName_within us h).andThen fun _ us h => ?_
  exact (skipPair_within _ _ us h).bind fun us h => .ok h

lemma contextPair?_within {us : List Token} (h : us <:+ ts) :
    Within ts (·.getD []) (contextPair? us) := by
  have hnone : Within ts (·.getD []) (.ok none : Except SyntaxFault (Option (List Token))) :=
    .ok List.nil_suffix
  unfold contextPair?
  split
  · split
    · refine (meet_within (suffix_of_cons h)).bind fun _ h => ?_
      split
      · exact (next_within h).bind fun us h => .ok h
      · exact hnone
    · exact hnone
  · exact hnone

lemma importedNames_within (n : ℕ) (first : Bool) : SkipsWithin ts (importedNames n first) := by
  induction n generalizing first with
  | zero => exact fun us h => .ok h
  | succ n ih =>
    intro us h
    refine .ite_bind (.ok h) (expect_within .comma h) fun us h => ?_
    dsimp only
    split
    · refine (contextPair?_within h).bind fun pair hpair => ?_
      split
      · exact .ok hpair
      · refine (targetName_within _ h).andThen fun w us h => ?_
        -- the new name behind the word as
        have hrenamed : Within ts id (do return (← targetName (← next us)).2) :=
          (next_within h).bind fun us h => (targetName_within us h).andThen fun _ _ h => .ok h
        dsimp only
        split
        · exact .error nofun
        · refine .ite_bind hrenamed (.ok h) fun us h => ?_
          refine (contextPair?_within h).bind fun pair hpair => ?_
          split
          · exact .ok hpair
          · split
            · exact ih false us h
            · exact .ok h
    · exact .error (due_ne_word _ _)

lemma fromTag_within : Reader.Within ts fromTag := by
  intro us h
  refine (whole_within us h).andThen fun _ us h => ?_
  refine (expectWord_within "import" us h).bind fun us h => ?_
  exact (importedNames_within _ true us h).bind fun us h => .ok h

lemma printed_within (n : ℕ) (first : Bool) : SkipsWithin ts (printed n first) := by
  induction n generalizing first with
  | zero => exact fun us h => .ok h
  | succ n ih =>
    intro us h
    unfold printed
    split
    · exact .ok h
    · refine .ite_bind (.ok h) (expect_within .comma h) fun us h => ?_
      exact (whole_within us h).andThen fun _ us h => ih false us h

lemma printTag_within : Reader.Within ts printTag := fun us h =>
  (printed_within _ true us h).bind fun _ h => .ok h

/-! ### Statements with a body -/

section

variable {body : Nesting → List String → Check}
  (hbody : ∀ place closers, Reader.Within ts (body place closers)) (place : Nesting)

include hbody

lemma bodyUntil_within (closers : List String) :
    Reader.Within ts (bodyUntil body place closers) := by
  intro us h
  refine .ite_bind (next_within h) (.ok h) fun us h => ?_
  refine (expectBlockEnd_within us h).bind fun us h => ?_
  refine (hbody place closers us h).andThen fun _ _ h => ?_
  dsimp only
  split
  · exact .error nofun
  · exact .ok h

lemma bodyClosed_within (closer : String) : Reader.Within ts (bodyClosed body place closer) :=
  fun us h => (bodyUntil_within hbody place [closer] us h).andThen fun _ _ h =>
    (next_within h).bind fun _ h => .ok h

lemma lastBody_within (closer : String) : Reader.Within ts (lastBody body place closer) :=
  fun us h => (bodyClosed_within hbody place closer us h).andThen fun _ _ h => .ok h

lemma forTag_within : Reader.Within ts (forTag body place) := by
  intro us h
  refine (target_within (primary_within whole_within) us h).bind fun us h => ?_
  refine (expectWord_within "in" us h).bind fun us h => ?_
  refine (unconditional_within us h).andThen fun _ us h => ?_
  have hcondition : Within ts id (do return (← whole (← next us)).2) :=
    (next_within h).bind fun us h => (whole_within us h).andThen fun _ _ h => .ok h
  refine .ite_bind hcondition (.ok h) fun us h => ?_
  refine (skipWord_within "recursive" us h).bind fun us h => ?_
  refine (bodyUntil_within hbody place _ us h).andThen fun _ us h => ?_
  refine (next_within h).bind fun rest h => ?_
  split
  · exact .ok h
  · exact lastBody_within hbody place "endfor" rest h

lemma branches_within (n : ℕ) : Reader.Within ts (branches body place n) := by
  induction n with
  | zero => exact fun us h => .ok h
  | succ n ih =>
    intro us h
    refine (unconditional_within us h).andThen fun _ us h => ?_
    refine (bodyUntil_within hbody place _ us h).andThen fun _ us h => ?_
    refine (next_within h).bind fun rest h => ?_
    split
    · exact ih rest h
    · split
      · exact lastBody_within hbody place "endif" rest h
      · exact .ok h

lemma setTag_within : Reader.Within ts (setTag body place) := by
  intro us h
  refine (target_within reference_within us h).bind fun us h => ?_
  dsimp only
  split
  · refine (next_within h).bind fun us h => ?_
    exact (oneOrTuple_within (expression_within _) false us h).andThen fun _ us h => .ok h
  · refine (repeated_within (pipeStep_within whole_within) _ _ us h).andThen fun _ us h => ?_
    exact lastBody_within hbody place "endset" us h

omit hbody in
lemma bindings_within (n : ℕ) (first : Bool) : SkipsWithin ts (bindings n first) := by
  induction n generalizing first with
  | zero => exact fun us h => .ok h
  | succ n ih =>
    intro us h
    unfold bindings
    split
    · exact .ok h
    · refine .ite_bind (.ok h) (expect_within .comma h) fun us h => ?_
      refine (target_within (primary_within whole_within) us h).bind fun us h => ?_
      refine (expect_within .assign h).bind fun us h => ?_
      exact (whole_within us h).andThen fun _ us h => ih false us h

lemma withTag_within : Reader.Within ts (withTag body place) := fun us h =>
  (bindings_within _ true us h).bind fun us h => lastBody_within hbody place "endwith" us h

lemma autoescapeTag_within : Reader.Within ts (autoescapeTag body place) := fun us h =>
  (whole_within us h).andThen fun _ us h => lastBody_within hbody place "endautoescape" us h

lemma blockTag_within : Reader.Within ts (blockTag body place) := by
  intro us h
  refine (expectName_within us h).andThen fun w us h => ?_
  refine (skipWord_within "scoped" us h).bind fun us h => ?_
  refine (skipWord_within "required" us h).bind fun rest h => ?_
  dsimp only
  split
  · exact .error nofun
  · refine (bodyClosed_within hbody place "endblock" rest h).andThen fun blank us h => ?_
    dsimp only
    split
    · exact .error nofun
    · exact (skipWord_within w us h).bind fun us h => .ok h

lemma macroTag_within : Reader.Within ts (macroTag body place) := fun us h =>
  (targetName_within us h).andThen fun _ us h => (signature_within us h).bind fun us h =>
    lastBody_within hbody place "endmacro" us h

lemma callTag_within : Reader.Within ts (callTag body place) := by
  intro us h
  refine .ite_bind (signature_within us h) (.ok h) fun us h => ?_
  refine (whole_within us h).andThen fun e us h => ?_
  dsimp only
  split
  · exact lastBody_within hbody place "endcall" us h
  · exact .error nofun

lemma filterTag_within : Reader.Within ts (filterTag body place) := by
  intro us h
  refine (filter_within whole_within us h).andThen fun e us h => ?_
  refine (repeated_within (pipeStep_within whole_within) _ e us h).andThen fun _ us h => ?_
  exact lastBody_within hbody place "endfilter" us h

lemma tag?_within {w : String} {check : Nesting → Check} (h : tag? body w = some check) :
    Reader.Within ts (check place) := by
  unfold tag? at h
  split at h <;> cases h
  · exact forTag_within hbody place
  · exact fun us h => branches_within hbody place _ us h
  · exact blockTag_within hbody place
  · exact extendsTag_within
  · exact printTag_within
  · exact macroTag_within hbody place
  · exact includeTag_within
  · exact fromTag_within
  · exact importTag_within
  · exact setTag_within hbody place
  · exact withTag_within hbody place
  · exact autoescapeTag_within hbody place
  · exact callTag_within hbody place
  · exact filterTag_within hbody place

lemma read_within : Reader.Within ts (read body place) := by
  intro us h
  unfold read
  split
  · split
    · exact (meet_within (suffix_of_cons h)).bind fun _ h => tag?_within hbody _ ‹_› _ h
    · exact .error nofun
  · exact .error nofun

end

/-! ### Templates -/

lemma parts_within {statement : Check} (hstatement : statement.Within ts) (closers : List String)
    (n : ℕ) (blank : Bool) : Reader.Within ts (parts statement closers n blank) := by
  induction n generalizing blank with
  | zero => exact fun us h => .ok h
  | succ n ih =>
    intro us h
    cases us with
    | nil => exact .ok h
    | cons t us =>
      have htail : us <:+ ts := suffix_of_cons h
      cases t with
      | data b => exact (meet_within htail).bind fun _ h => ih _ us h
      | printBegin => exact (statement_within us htail).andThen fun _ us h => ih false us h
      | blockBegin =>
        refine (meet_within htail).bind fun _ h => ?_
        dsimp only
        split
        · exact .ok h
        · refine (hstatement us h).andThen fun b us h => ?_
          exact (expectBlockEnd_within us h).bind fun us h => ih _ us h
      | _ => exact .ok h

lemma nested_within (n : ℕ) (place : Nesting) : Reader.Within ts (nested n place) := by
  induction n generalizing place with
  | zero => exact fun us _ => .error nofun
  | succ n ih =>
    exact read_within (fun place closers us h => parts_within (ih _) closers _ _ us h) _

/-- **A faulty word that is found in a template is one of its words.** -/
theorem mem_of_fault? {w : WordFault} (h : fault? ts = some (.word w)) : .fault w ∈ ts := by
  have hmeet : Within ts (fun _ => ts) (meet ts) := meet_within List.suffix_rfl
  have hparts := parts_within (nested_within (ts.length + 1) {}) [] (ts.length + 1) true ts
    List.suffix_rfl
  unfold fault? at h
  split at h
  · rename_i hf
    cases h
    exact hmeet.fault w hf
  · rename_i hf _
    cases h
    exact hparts.fault w hf
  · cases h

end Statement

end Daybook
