import Daybook.Proofs.Evaluation.Leftmost

/-!
Which calls an evaluation makes. The calls in an expression stand in the order in which their
arguments are complete: those of the left operand before those of the right one, those in the
arguments from left to right and before the call itself. An evaluation notes the ones among them
that it gets to, which are the first ones, and all of them if it comes to a value.
-/

namespace Daybook.Expr

/-- A call that stands further down, seen from one level up. -/
def under (i : ℕ) (x : List ℕ × CallNote) : List ℕ × CallNote := (i :: x.1, x.2)

mutual

/-- The calls in an expression, each with its position. -/
def sites : Expr → List (List ℕ × CallNote)
  | lit _ | name _ => []
  | unary _ e => (sites e).map (under 0)
  | binary _ a b => (sites a).map (under 0) ++ (sites b).map (under 1)
  | .call f args => sitesFrom 0 args ++ [([], ⟨f, args.length⟩)]

/-- The calls in the arguments from the given one on. -/
def sitesFrom : ℕ → List Expr → List (List ℕ × CallNote)
  | _, [] => []
  | i, e :: es => (sites e).map (under i) ++ sitesFrom (i + 1) es

end

def own : Expr → List CallNote
  | lit _ | name _ | unary .. | binary .. => []
  | .call f args => [⟨f, args.length⟩]

def calls (e : Expr) : List CallNote := e.sites.map (·.2)

variable {r : Registry} {c : Context} {e d : Expr} {es before : List Expr} {i : ℕ} {p : List ℕ}
  {stop : Stop}

/-! ### The calls by parts -/

lemma sites_eq (e : Expr) : e.sites = sitesFrom 0 e.parts ++ e.own.map fun n => ([], n) := by
  cases e with
  | lit | name | call => simp [sites, sitesFrom, parts, own]
  | unary s e => simp [sites, sitesFrom, parts, own]
  | binary o a b => simp [sites, sitesFrom, parts, own]

lemma map_snd_sitesFrom (i : ℕ) (es : List Expr) :
    (sitesFrom i es).map (·.2) = es.flatMap calls := by
  induction es generalizing i with
  | nil => rfl
  | cons e es ih =>
    have hsame : ((sites e).map (under i)).map (·.2) = e.calls := by
      rw [List.map_map]
      rfl
    rw [sitesFrom, List.map_append, ih, List.flatMap_cons, hsame]

lemma calls_eq (e : Expr) : e.calls = e.parts.flatMap calls ++ e.own := by
  rw [calls, sites_eq, List.map_append, map_snd_sitesFrom, List.map_map]
  exact congrArg _ (List.map_id _)

lemma exists_of_mem_sitesFrom {x : List ℕ × CallNote} (h : x ∈ sitesFrom i es) :
    ∃ j q, x.1 = j :: q ∧ i ≤ j := by
  induction es generalizing i with
  | nil => cases h
  | cons e es ih =>
    rw [sitesFrom] at h
    rcases List.mem_append.1 h with h | h
    · obtain ⟨y, -, rfl⟩ := List.mem_map.1 h
      exact ⟨i, y.1, rfl, Nat.le_refl i⟩
    · obtain ⟨j, q, hq, hj⟩ := ih h
      exact ⟨j, q, hq, by omega⟩

/-! ### The notes by parts -/

variable (r c)

instance (e : Expr) : Decidable (HasValue r c e) :=
  match h : e.evaluate r c with
  | .ok v => isTrue ⟨v, h⟩
  | .error _ => isFalse (by rintro ⟨v, hv⟩; rw [h] at hv; cases hv)

def notes (e : Expr) : List CallNote := (run r c e).1

def notesAll (es : List Expr) : List CallNote := (runAll r c es).1

variable {r c}

lemma not_hasValue_iff : ¬ HasValue r c e ↔ ∃ stop, e.evaluate r c = .error stop := by
  rw [HasValue]
  cases e.evaluate r c <;> simp

lemma notesAll_cons_of_hasValue (h : HasValue r c e) :
    notesAll r c (e :: es) = e.notes r c ++ notesAll r c es := by
  obtain ⟨v, hv⟩ := h
  have hrun : run r c e = (e.notes r c, .ok v) := Prod.ext rfl hv
  rw [notesAll, runAll, hrun, notesAll]
  rcases runAll r c es with ⟨_, _ | _⟩ <;> rfl

lemma notesAll_cons_of_not (h : ¬ HasValue r c e) : notesAll r c (e :: es) = e.notes r c := by
  obtain ⟨stop, hstop⟩ := not_hasValue_iff.1 h
  have hrun : run r c e = (e.notes r c, .error stop) := Prod.ext rfl hstop
  rw [notesAll, runAll, hrun]

lemma forall_hasValue_iff :
    (∀ d ∈ es, HasValue r c d) ↔ ∃ vs, evaluateAll r c es = .ok vs ∧ vs.length = es.length := by
  constructor
  · intro h
    cases hes : evaluateAll r c es with
    | ok vs => exact ⟨vs, rfl, (evaluateAll_eq_ok.1 hes).length_eq.symm⟩
    | error stop =>
      obtain ⟨d, hd, hstop⟩ := evaluateAll_eq_error hes
      exact absurd (h d hd) (not_hasValue_iff.2 ⟨stop, hstop⟩)
  · rintro ⟨vs, hvs, -⟩ d hd
    exact hasValue_of_mem hvs hd

lemma notes_eq_of_own (h : e.own = []) : e.notes r c = notesAll r c e.parts := by
  cases e with
  | lit | name => rfl
  | unary s e =>
    simp only [notes, run, notesAll, parts, runAll]
    rcases run r c e with ⟨_, _ | _⟩ <;> simp
  | binary o a b =>
    simp only [notes, run, notesAll, parts, runAll]
    rcases run r c a with ⟨_, _ | _⟩
    · rfl
    · rcases run r c b with ⟨_, _ | _⟩ <;> simp
  | call f args => cases h

lemma notes_eq_append (h : ∀ d ∈ e.parts, HasValue r c d) :
    e.notes r c = notesAll r c e.parts ++ e.own := by
  cases e with
  | lit | name | unary | binary => rw [notes_eq_of_own rfl, own, List.append_nil]
  | call f args =>
    obtain ⟨vs, hvs, hlength⟩ := forall_hasValue_iff.1 h
    have hrun : runAll r c args = (notesAll r c args, .ok vs) := Prod.ext rfl hvs
    have hcount : vs.length = args.length := hlength
    rw [notes, run, hrun, own, ← hcount]
    rfl

lemma notes_eq_of_not (h : ¬ ∀ d ∈ e.parts, HasValue r c d) :
    e.notes r c = notesAll r c e.parts := by
  cases e with
  | lit | name | unary | binary => exact notes_eq_of_own rfl
  | call f args =>
    cases hes : evaluateAll r c args with
    | ok vs => exact absurd (fun d hd => hasValue_of_mem hes hd) h
    | error stop =>
      have hrun : runAll r c args = (notesAll r c args, .error stop) := Prod.ext rfl hes
      rw [notes, run, hrun]
      rfl

/-! ### Which calls are noted -/

lemma notesAll_eq (ih : ∀ d ∈ es, HasValue r c d → d.notes r c = d.calls)
    (h : ∀ d ∈ es, HasValue r c d) : notesAll r c es = es.flatMap calls := by
  induction es with
  | nil => rfl
  | cons d es ih' =>
    obtain ⟨hd, hes⟩ := List.forall_mem_cons.1 h
    obtain ⟨ihd, ihes⟩ := List.forall_mem_cons.1 ih
    rw [notesAll_cons_of_hasValue hd, List.flatMap_cons, ihd hd, ih' ihes hes]

lemma parts_of_hasValue (h : HasValue r c e) : ∀ d ∈ e.parts, HasValue r c d := by
  obtain ⟨v, hv⟩ := h
  obtain ⟨combine, he⟩ := exists_combine (r := r) (c := c) e
  rw [he] at hv
  obtain ⟨vs, hvs, -⟩ := bind_eq_ok.1 hv
  exact fun d hd => hasValue_of_mem hvs hd

lemma notes_of_hasValue (h : HasValue r c e) : e.notes r c = e.calls := by
  induction e using induct_parts with
  | step e ih =>
    have hparts := parts_of_hasValue h
    rw [notes_eq_append hparts, calls_eq, notesAll_eq ih hparts]

lemma notesAll_first (ih : ∀ d ∈ es, d.notes r c <+: d.calls) :
    notesAll r c es <+: es.flatMap calls := by
  induction es with
  | nil => exact List.prefix_rfl
  | cons d es ih' =>
    obtain ⟨ihd, ihes⟩ := List.forall_mem_cons.1 ih
    rw [List.flatMap_cons]
    by_cases hd : HasValue r c d
    · rw [notesAll_cons_of_hasValue hd, notes_of_hasValue hd]
      exact (List.prefix_append_right_inj _).2 (ih' ihes)
    · rw [notesAll_cons_of_not hd]
      exact ihd.trans (List.prefix_append _ _)

lemma notes_first (e : Expr) : e.notes r c <+: e.calls := by
  induction e using induct_parts with
  | step e ih =>
    rw [calls_eq]
    by_cases hparts : ∀ d ∈ e.parts, HasValue r c d
    · have hall : e.notes r c = e.parts.flatMap calls ++ e.own := by
        rw [notes_eq_append hparts, notesAll_eq (fun d _ => notes_of_hasValue) hparts]
      exact hall ▸ List.prefix_rfl
    · rw [notes_eq_of_not hparts]
      exact (notesAll_first ih).trans (List.prefix_append _ _)

/-! ### And which exactly -/

variable (r c) in
/-- Everything to the left of a position has a value, and so do all parts of what is there. -/
def Complete (e : Expr) (p : List ℕ) : Prop :=
  ∀ a ∈ e.leftOf p ++ (e.at? p).elim [] parts, HasValue r c a

instance (e : Expr) (p : List ℕ) : Decidable (e.Complete r c p) := by
  unfold Complete
  infer_instance

lemma complete_nil : e.Complete r c [] ↔ ∀ d ∈ e.parts, HasValue r c d := Iff.rfl

lemma Complete.left (h : e.Complete r c (i :: p)) : ∀ a ∈ e.parts.take i, HasValue r c a :=
  fun a ha => h a (List.mem_append_left _ (List.mem_append_left _ ha))

lemma complete_cons (hi : e.parts[i]? = some d) : e.Complete r c (i :: p) ↔
    (∀ a ∈ e.parts.take i, HasValue r c a) ∧ d.Complete r c p := by
  simp only [Complete, leftOf, at?, hi, Option.elim_some, Option.bind_some, List.append_assoc,
    List.forall_mem_append]

lemma filter_sites_part (hi : e.parts[i]? = some d) (hleft : ∀ a ∈ e.parts.take i, HasValue r c a)
    (ih : (d.sites.filter fun x => d.Complete r c x.1).map (·.2) = d.notes r c) :
    (((sites d).map (under i)).filter fun x => e.Complete r c x.1).map (·.2) = d.notes r c := by
  have hsame : ∀ x, decide (e.Complete r c (under i x).1) = decide (d.Complete r c x.1) := fun x =>
    decide_eq_decide.2 ((complete_cons hi).trans ⟨And.right, fun h => ⟨hleft, h⟩⟩)
  calc (((sites d).map (under i)).filter fun x => e.Complete r c x.1).map (·.2)
      = ((d.sites.filter fun x => e.Complete r c (under i x).1).map (under i)).map (·.2) := by
        rw [List.filter_map]
        rfl
    _ = (d.sites.filter fun x => d.Complete r c x.1).map (·.2) := by
        simp only [hsame, List.map_map]
        rfl
    _ = d.notes r c := ih

lemma filter_sitesFrom (hparts : e.parts = before ++ es) (hbefore : ∀ a ∈ before, HasValue r c a)
    (ih : ∀ d ∈ e.parts, (d.sites.filter fun x => d.Complete r c x.1).map (·.2) = d.notes r c) :
    ((sitesFrom before.length es).filter fun x => e.Complete r c x.1).map (·.2) =
      notesAll r c es := by
  induction es generalizing before with
  | nil => rfl
  | cons d es ihes =>
    have hi : e.parts[before.length]? = some d := by
      rw [hparts]
      simp
    have hleft : ∀ a ∈ e.parts.take before.length, HasValue r c a := by
      rw [hparts, List.take_left]
      exact hbefore
    have hd : d ∈ e.parts := List.mem_of_getElem? hi
    have hfirst := filter_sites_part hi hleft (ih d hd)
    rw [sitesFrom, List.filter_append, List.map_append, hfirst]
    -- behind a part without a value no call is complete
    by_cases hvalue : HasValue r c d
    · have hrest := @ihes (before ++ [d]) (by rw [hparts, List.append_assoc]; rfl)
        (List.forall_mem_append.2 ⟨hbefore, List.forall_mem_singleton.2 hvalue⟩)
      rw [List.length_append, List.length_singleton] at hrest
      rw [hrest, notesAll_cons_of_hasValue hvalue]
    · have hnone : (sitesFrom (before.length + 1) es).filter (fun x => e.Complete r c x.1) =
          [] := by
        refine List.filter_eq_nil_iff.2 fun x hx hcomplete => ?_
        obtain ⟨j, q, hq, hj⟩ := exists_of_mem_sitesFrom hx
        have hcomplete : e.Complete r c (j :: q) := hq ▸ of_decide_eq_true hcomplete
        have htake : (e.parts.take j)[before.length]? = some d := by
          rw [List.getElem?_take_of_lt hj, hi]
        exact hvalue (hcomplete.left d (List.mem_of_getElem? htake))
      rw [hnone, notesAll_cons_of_not hvalue]
      exact List.append_nil _

/-- **An evaluation notes exactly the calls whose arguments are complete.** -/
lemma filter_sites (e : Expr) :
    (e.sites.filter fun x => e.Complete r c x.1).map (·.2) = e.notes r c := by
  induction e using induct_parts with
  | step e ih =>
    have hparts : ((sitesFrom 0 e.parts).filter fun x => e.Complete r c x.1).map (·.2) =
        notesAll r c e.parts :=
      @filter_sitesFrom r c e e.parts [] rfl (List.forall_mem_nil _) ih
    -- the call itself counts when all its arguments have values
    have hown : (e.own.map fun n => (([] : List ℕ), n)).filter (fun x => e.Complete r c x.1) =
        if ∀ d ∈ e.parts, HasValue r c d then e.own.map fun n => ([], n) else [] := by
      split_ifs with h
      · refine List.filter_eq_self.2 fun x hx => ?_
        obtain ⟨n, -, rfl⟩ := List.mem_map.1 hx
        exact decide_eq_true (complete_nil.2 h)
      · refine List.filter_eq_nil_iff.2 fun x hx hcomplete => ?_
        obtain ⟨n, -, rfl⟩ := List.mem_map.1 hx
        exact h (complete_nil.1 (of_decide_eq_true hcomplete))
    rw [sites_eq, List.filter_append, List.map_append, hparts, hown]
    split_ifs with h
    · rw [notes_eq_append h, List.map_map]
      exact congrArg _ (List.map_id _)
    · rw [notes_eq_of_not h]
      exact List.append_nil _

/-! ### The list of calls -/

lemma mem_sitesFrom {n : CallNote} {j : ℕ} : (j :: p, n) ∈ sitesFrom i es ↔
    i ≤ j ∧ ∃ d, es[j - i]? = some d ∧ (p, n) ∈ d.sites := by
  induction es generalizing i with
  | nil => simp [sitesFrom]
  | cons e es ih =>
    rw [sitesFrom, List.mem_append, ih]
    constructor
    · rintro (h | ⟨hj, d, hd, hn⟩)
      · obtain ⟨x, hx, heq⟩ := List.mem_map.1 h
        cases heq
        exact ⟨Nat.le_refl _, e, by simp, hx⟩
      · have hsub : j - i = j - (i + 1) + 1 := by omega
        exact ⟨by omega, d, by rw [hsub, List.getElem?_cons_succ]; exact hd, hn⟩
    · rintro ⟨hj, d, hd, hn⟩
      rcases Nat.eq_or_lt_of_le hj with rfl | hj
      · rw [Nat.sub_self] at hd
        cases hd
        exact .inl (List.mem_map.2 ⟨(p, n), hn, rfl⟩)
      · have hsub : j - i = j - (i + 1) + 1 := by omega
        rw [hsub, List.getElem?_cons_succ] at hd
        exact .inr ⟨hj, d, hd, hn⟩

lemma mem_own {n : CallNote} : n ∈ e.own ↔ ∃ f args, e = .call f args ∧ n = ⟨f, args.length⟩ := by
  cases e with
  | lit | name | unary | binary => simp [own]
  | call f args =>
    rw [own, List.mem_singleton]
    constructor
    · rintro rfl
      exact ⟨f, args, rfl, rfl⟩
    · rintro ⟨g, ds, heq, rfl⟩
      cases heq
      rfl

lemma mem_sites {n : CallNote} : (p, n) ∈ e.sites ↔
    ∃ f args, e.at? p = some (.call f args) ∧ n = ⟨f, args.length⟩ := by
  induction p generalizing e with
  | nil =>
    rw [sites_eq, List.mem_append]
    constructor
    · -- a call in a part has a longer path, so only the call itself is meant
      rintro (h | h)
      · obtain ⟨j, q, hq, -⟩ := exists_of_mem_sitesFrom h
        cases hq
      · obtain ⟨m, hm, heq⟩ := List.mem_map.1 h
        cases heq
        obtain ⟨f, args, rfl, rfl⟩ := mem_own.1 hm
        exact ⟨f, args, rfl, rfl⟩
    · rintro ⟨f, args, hat, rfl⟩
      cases hat
      exact .inr (List.mem_map.2 ⟨_, mem_own.2 ⟨f, args, rfl, rfl⟩, rfl⟩)
  | cons j p ih =>
    rw [sites_eq, List.mem_append, mem_sitesFrom, at?]
    constructor
    · rintro (⟨-, d, hd, hn⟩ | h)
      · rw [Nat.sub_zero] at hd
        rw [hd]
        exact ih.1 hn
      · obtain ⟨m, -, heq⟩ := List.mem_map.1 h
        cases heq
    · rintro ⟨f, args, hat, hn⟩
      obtain ⟨d, hd, hdat⟩ := Option.bind_eq_some_iff.1 hat
      exact .inl ⟨Nat.zero_le j, d, hd, ih.2 ⟨f, args, hdat, hn⟩⟩

/-- Which of two positions comes first: the one further to the left, and what is inside before
what it is in. -/
inductive Precedes : List ℕ → List ℕ → Prop
  | inside {i : ℕ} {p : List ℕ} : Precedes (i :: p) []
  | left {i j : ℕ} {p q : List ℕ} : i < j → Precedes (i :: p) (j :: q)
  | under {i : ℕ} {p q : List ℕ} : Precedes p q → Precedes (i :: p) (i :: q)

lemma pairwise_sitesFrom (ih : ∀ d ∈ es, (d.sites.map (·.1)).Pairwise Precedes) (i : ℕ) :
    ((sitesFrom i es).map (·.1)).Pairwise Precedes := by
  induction es generalizing i with
  | nil => exact .nil
  | cons d es ihes =>
    obtain ⟨ihd, ihrest⟩ := List.forall_mem_cons.1 ih
    rw [sitesFrom, List.map_append, List.pairwise_append]
    refine ⟨?_, ihes ihrest (i + 1), ?_⟩
    · have hmap : ((sites d).map (under i)).map (·.1) = (d.sites.map (·.1)).map (i :: ·) := by
        rw [List.map_map, List.map_map]
        rfl
      rw [hmap]
      exact ihd.map _ fun _ _ => .under
    · -- a call in one part and one in a later part
      intro q hq q' hq'
      obtain ⟨x, hx, rfl⟩ := List.mem_map.1 hq
      obtain ⟨y, -, rfl⟩ := List.mem_map.1 hx
      obtain ⟨x', hx', rfl⟩ := List.mem_map.1 hq'
      obtain ⟨j, t, ht, hj⟩ := exists_of_mem_sitesFrom hx'
      rw [ht]
      exact .left hj

lemma pairwise_sites (e : Expr) : (e.sites.map (·.1)).Pairwise Precedes := by
  induction e using induct_parts with
  | step e ih =>
    rw [sites_eq, List.map_append, List.pairwise_append]
    refine ⟨pairwise_sitesFrom ih 0, ?_, ?_⟩
    · cases e <;> simp [own]
    · intro q hq q' hq'
      obtain ⟨x, hx, rfl⟩ := List.mem_map.1 hq
      obtain ⟨y, hy, rfl⟩ := List.mem_map.1 hq'
      obtain ⟨n, -, rfl⟩ := List.mem_map.1 hy
      obtain ⟨j, t, ht, -⟩ := exists_of_mem_sitesFrom hx
      rw [ht]
      exact .inside

/-- **What an evaluation notes**: the first calls of the expression, all of them if it comes to a
value, and in any case those whose arguments are complete. -/
structure Noted (r : Registry) (c : Context) (e : Expr) (notes : List CallNote) : Prop where
  first : notes <+: e.calls
  all : HasValue r c e → notes = e.calls
  complete : notes = (e.sites.filter fun x => e.Complete r c x.1).map (·.2)

lemma noted_run (r : Registry) (c : Context) (e : Expr) : Noted r c e (run r c e).1 where
  first := notes_first e
  all := notes_of_hasValue
  complete := (filter_sites e).symm

end Daybook.Expr
