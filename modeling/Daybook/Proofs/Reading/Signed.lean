import Daybook.Proofs.Reading.RoundTrip

/-!
Reading a number behind a sign. A number has no blank between its sign and its digits, so its words
stand side by side; zeros at the beginning of a whole number are a number of their own, unless
there is nothing else.
-/

namespace Daybook

open Text

namespace Number

variable {cs ds : List Char}

def signed (negative : Bool) (cs : List Char) : List Char := if negative then '-' :: cs else cs

/-- Digits that begin with a zero and are not all zeros. -/
def Padded (ds : List Char) : Prop := ds.head? = some '0' ∧ ∃ d ∈ ds, d ≠ '0'

instance (ds : List Char) : Decidable (Padded ds) :=
  decidable_of_iff (ds.head? = some '0' ∧ ds.any (· != '0') = true) (by simp [Padded])

/-- A text that begins with a digit. -/
def Digital (cs : List Char) : Prop := ∃ c r, cs = c :: r ∧ c.isDigit = true

lemma Digital.append (h : Digital cs) (rest : List Char) : Digital (cs ++ rest) := by
  obtain ⟨c, r, rfl, hc⟩ := h
  exact ⟨c, r ++ rest, rfl, hc⟩

lemma Digital.length_pos (h : Digital cs) : 0 < cs.length := by
  obtain ⟨c, r, rfl, -⟩ := h
  exact Nat.succ_pos _

lemma digital_of_isDigits (hds : IsDigits ds) (hne : ds ≠ []) : Digital ds := by
  obtain ⟨c, r, rfl⟩ := List.exists_cons_of_ne_nil hne
  exact ⟨c, r, rfl, hds c List.mem_cons_self⟩

lemma isBlank_of_mem_signed {negative : Bool} (hcs : ∀ c ∈ cs, isBlank c = false) :
    ∀ c ∈ signed negative cs, isBlank c = false := by
  cases negative with
  | false => exact hcs
  | true => exact List.forall_mem_cons.2 ⟨rfl, hcs⟩

lemma signed_ne_nil {negative : Bool} (hcs : Digital cs) : signed negative cs ≠ [] := by
  obtain ⟨c, r, rfl, -⟩ := hcs
  cases negative <;> exact List.cons_ne_nil _ _

/-! ### Zeros at the beginning -/

lemma ofDigits_zeros (k : ℕ) : ofDigits 10 (digitValues (List.replicate k '0')) = 0 := by
  rw [digitValues, List.map_replicate, ofDigits]
  induction k with
  | zero => rfl
  | succ k ih =>
    rw [List.replicate_succ, List.foldl_cons]
    exact ih

lemma exists_replicate_of_not_padded (hne : ds ≠ []) (hhead : ds.head? = some '0')
    (h : ¬ Padded ds) : ∃ k, ds = List.replicate (k + 1) '0' := by
  have hzeros : ds = List.replicate ds.length '0' := by
    refine List.eq_replicate_of_mem fun d hd => ?_
    by_contra hzero
    exact h ⟨hhead, d, hd, hzero⟩
  obtain ⟨k, hk⟩ := Nat.exists_eq_add_of_le' (List.length_pos_iff.2 hne)
  exact ⟨k, by rw [← hk]; exact hzeros⟩

lemma exists_zeros (h : Padded ds) : ∃ k tail, ds = List.replicate (k + 1) '0' ++ tail ∧
    tail ≠ [] ∧ tail.head? ≠ some '0' := by
  induction ds with
  | nil => cases h.1
  | cons c r ih =>
    obtain ⟨hhead, d, hd, hzero⟩ := h
    cases hhead
    have hr : d ∈ r := (List.mem_cons.1 hd).resolve_left hzero
    by_cases hnext : r.head? = some '0'
    · obtain ⟨k, tail, hsplit, htail⟩ := ih ⟨hnext, d, hr, hzero⟩
      exact ⟨k + 1, tail, congrArg ('0' :: ·) hsplit, htail⟩
    · exact ⟨0, r, rfl, List.ne_nil_of_mem hr, hnext⟩

end Number

/-! ### Words -/

namespace Token

open Number

variable {cs ds rest : List Char} {t : Token} {ts : List Token}

lemma printEnd?_of_digital (h : Digital cs) : printEnd? cs = none := by
  obtain ⟨c, r, rfl, hc⟩ := h
  refine printEnd?_of_ne ?_ ?_ <;> rintro rfl <;> cases hc

/-- The words of a text, if it is all of a print statement. -/
def Cuts (cs : List Char) (ts : List Token) : Prop :=
  ∀ total n, (cs ++ Expr.closing).length < n →
    cut printEnd? .printEnd total n false [] (cs ++ Expr.closing) = (ts ++ [.printEnd], [])

lemma cuts_nil : Cuts [] [] := fun _ _ hn =>
  cut_closing (Nat.le_trans (by decide) (Nat.le_of_lt hn))

lemma Cuts.number (h : Cuts rest ts) (hcs : Digital cs)
    (hscan : scan false (cs ++ Expr.closing) = some (.ok t, rest ++ Expr.closing))
    (hnumber : ∀ s, t ≠ .symbol s) (hlen : rest.length < cs.length) : Cuts cs (t :: ts) := by
  intro total n hn
  simp only [List.length_append] at hn
  obtain ⟨n, rfl⟩ : ∃ k, n = k + 1 := ⟨n - 1, by omega⟩
  have hrest := h total n (by rw [List.length_append]; omega)
  have hdue : closersAfter [] [t] = .ok [] := by
    cases t with
    | symbol s => exact absurd rfl (hnumber s)
    | _ => rfl
  have hend := printEnd?_of_digital (hcs.append Expr.closing)
  obtain ⟨c, r, rfl, hc⟩ := hcs
  rw [List.cons_append] at hend hscan ⊢
  rw [cut_scan hend (isBlank_of_isDigit hc) hscan hdue (hnumber .dot), hrest]
  rfl

lemma Cuts.minus (h : Cuts cs ts) (hcs : Digital cs) : Cuts ('-' :: cs) (.symbol .sub :: ts) := by
  intro total n hn
  obtain ⟨n, rfl⟩ : ∃ k, n = k + 1 := ⟨n - 1, by omega⟩
  have hrest := h total n (Nat.lt_of_succ_lt_succ hn)
  have hend : printEnd? ('-' :: (cs ++ Expr.closing)) = none := by
    obtain ⟨c, r, rfl, hc⟩ := hcs
    rw [printEnd?.eq_def]
    split
    · rename_i h
      rw [(List.cons.inj (List.cons.inj h).2).1] at hc
      cases hc
    · rename_i h
      exact absurd (List.cons.inj h).1 (by decide)
    · rfl
  have hscan : scan false ('-' :: (cs ++ Expr.closing)) =
      some (.ok (.symbol .sub), cs ++ Expr.closing) := rfl
  have hdot : Token.symbol .sub ≠ .symbol .dot := by rintro ⟨⟩
  rw [List.cons_append, cut_scan hend rfl hscan rfl hdot, hrest]
  rfl

lemma Cuts.signed {negative : Bool} (h : Cuts cs ts) (hcs : Digital cs) :
    Cuts (Number.signed negative cs) ((if negative then [.symbol .sub] else []) ++ ts) := by
  cases negative with
  | false => exact h
  | true => exact h.minus hcs

/-! ### Whole numbers -/

lemma float?_whole (hds : IsDigits ds) : float? (ds ++ Expr.closing) = none :=
  float?_of_digits hds rfl

lemma stops_closing : Stops Expr.closing := stops_blank rfl

lemma cuts_digits (hds : IsDigits ds) (hne : ds ≠ []) (hhead : ds.head? ≠ some '0')
    (hlimit : ds.length ≤ digitLimit) : Cuts ds [.int (ofDigits 10 (digitValues ds))] := by
  have hscan : scan false (ds ++ Expr.closing) =
      some (.ok (.int (ofDigits 10 (digitValues ds))), Expr.closing) :=
    scan_of_int? (float?_whole hds) (int?_digits hds hne hhead hlimit stops_closing)
  exact cuts_nil.number (digital_of_isDigits hds hne) hscan (by simp) (List.length_pos_iff.2 hne)

lemma cuts_whole (hds : IsDigits ds) (hne : ds ≠ []) (hpadded : ¬ Padded ds)
    (hlimit : ds.length ≤ digitLimit) : Cuts ds [.int (ofDigits 10 (digitValues ds))] := by
  by_cases hhead : ds.head? = some '0'
  · obtain ⟨k, rfl⟩ := exists_replicate_of_not_padded hne hhead hpadded
    have hzeros : k + 1 ≤ digitLimit := by
      rwa [List.length_replicate] at hlimit
    have hscan : scan false (List.replicate (k + 1) '0' ++ Expr.closing) =
        some (.ok (.int 0), Expr.closing) :=
      scan_of_int? (float?_whole hds) (int?_zeros_blank hzeros rfl)
    rw [ofDigits_zeros]
    exact cuts_nil.number (digital_of_isDigits hds hne) hscan (by simp) (by simp)
  · exact cuts_digits hds hne hhead hlimit

lemma cuts_padded (hds : IsDigits ds) (hpadded : Padded ds) (hlimit : ds.length ≤ digitLimit) :
    ∃ m, Cuts ds [.int 0, .int m] := by
  obtain ⟨k, tail, rfl, hne, hhead⟩ := exists_zeros hpadded
  have htail : IsDigits tail := fun d hd => hds d (List.mem_append_right _ hd)
  have hlen : k + 1 + tail.length ≤ digitLimit := by
    rwa [List.length_append, List.length_replicate] at hlimit
  -- the zeros in front are a number of their own, and the rest is the next
  have hzeros : int? (List.replicate (k + 1) '0' ++ (tail ++ Expr.closing)) =
      some (.ok (.int 0), tail ++ Expr.closing) := by
    refine int?_zeros (by omega) fun c r h => ?_
    obtain ⟨d, ds', rfl⟩ := List.exists_cons_of_ne_nil hne
    obtain ⟨rfl, -⟩ := List.cons.inj h
    have hd := htail d List.mem_cons_self
    have hzero : d ≠ '0' := by
      rintro rfl
      exact hhead rfl
    have hbase : base? d = none := by
      rw [base?.eq_def]
      split <;> first | rfl | cases hd
    exact ⟨hbase, hzero, ne_underscore_of_isDigit hd⟩
  rw [← List.append_assoc] at hzeros
  have hdigital : Digital (List.replicate (k + 1) '0' ++ tail) :=
    digital_of_isDigits hds (List.append_ne_nil_of_right_ne_nil _ hne)
  have hshorter : tail.length < (List.replicate (k + 1) '0' ++ tail).length := by
    rw [List.length_append, List.length_replicate]
    omega
  exact ⟨_, (cuts_digits htail hne hhead (by omega)).number hdigital
    (scan_of_int? (float?_whole hds) hzeros) (by simp) hshorter⟩

end Token

/-! ### Reading -/

namespace Expr

open Number Token

variable {cs : List Char} {ts : List Token} {l : Literal} {negative : Bool}

def signed (negative : Bool) (l : Literal) : Expr :=
  if negative then .unary .minus (.lit l) else .lit l

lemma evaluate_signed {r : Registry} {c : Context} {x : Float}
    (h : l.toValue = .ok (.number x)) :
    (signed negative l).evaluate r c = .ok (.number (if negative then -x else x)) := by
  cases negative with
  | false => exact h
  | true =>
    have hneg : signed true l = .unary .minus (.lit l) := rfl
    rw [hneg, evaluate_unary, evaluate_lit, h]
    rfl

lemma words_of_cuts (hcs : ∀ c ∈ cs, isBlank c = false) (h : Cuts cs ts) :
    words cs = (ts ++ [.printEnd], []) := by
  have hunify : unifyLineEnds (cs ++ []) = cs ++ [] := unifyLineEnds_word hcs
  rw [List.append_nil] at hunify
  rw [words, hunify]
  exact h _ _ (Nat.lt_succ_self _)

lemma read_of_cuts (hne : cs ≠ []) (hcs : ∀ c ∈ cs, isBlank c = false) (h : Cuts cs ts)
    {e : Tree} {us : List Token} (hstatement : Tree.statement (ts ++ [.printEnd]) = .ok (e, us)) :
    read cs = ofFault e.toExpr := by
  have hbehind : Markup.words (size cs) [] = [] := rfl
  rw [read, trim_of_not_blank hcs, if_neg hne, tree, words_of_cuts hcs h]
  simp only [hbehind, List.append_nil, hstatement, if_true, ok_bind]
  cases e.toExpr <;> rfl

lemma read_of_cuts_error (hne : cs ≠ []) (hcs : ∀ c ∈ cs, isBlank c = false) (h : Cuts cs ts)
    {f : SyntaxFault} (hstatement : Tree.statement (ts ++ [.printEnd]) = .error f) :
    read cs = .error (syntaxStop cs f) := by
  have hbehind : Markup.words (size cs) [] = [] := rfl
  rw [read, trim_of_not_blank hcs, if_neg hne, tree, words_of_cuts hcs h]
  simp only [hbehind, List.append_nil, hstatement]
  rfl

lemma read_literal (hl : (∃ m, l = .int m) ∨ ∃ x, l = .float x) (hdigital : Digital cs)
    (hcs : ∀ c ∈ cs, isBlank c = false) (h : Cuts cs [l.token]) :
    read (Number.signed negative cs) = .ok (signed negative l) := by
  have hstatement : Tree.statement ((if negative then [.symbol .sub] else []) ++ [l.token] ++
      [.printEnd]) = .ok (if negative then .sign .minus (.lit l) else .lit l, []) := by
    rcases hl with ⟨m, rfl⟩ | ⟨x, rfl⟩ <;> cases negative <;> rfl
  rw [read_of_cuts (signed_ne_nil hdigital) (isBlank_of_mem_signed hcs) (h.signed hdigital)
    hstatement]
  cases negative <;> rfl

lemma read_twoNumbers {k m : ℕ} (hdigital : Digital cs) (hcs : ∀ c ∈ cs, isBlank c = false)
    (h : Cuts cs [.int k, .int m]) :
    read (Number.signed negative cs) =
      .fault (.unreadable (String.ofList (Number.signed negative cs))
        (some (.expected "end of print statement" "integer"))) := by
  have hstatement : Tree.statement ((if negative then [.symbol .sub] else []) ++
      [.int k, .int m] ++ [.printEnd]) =
        .error (.expected "end of print statement" "integer") := by
    cases negative <;> rfl
  rw [read_of_cuts_error (signed_ne_nil hdigital) (isBlank_of_mem_signed hcs)
    (h.signed hdigital) hstatement]
  rfl

end Expr

end Daybook
