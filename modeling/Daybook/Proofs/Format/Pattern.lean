import Mathlib.Data.List.TakeWhile
import Daybook.Format.Date
import Daybook.Proofs.Text.Words

/-!
Patterns part by part. A token never reaches over a character that no token goes on with, and a
bracket ends at the first closing one. So what stands before a bracketed text, or before a
character of no token, is written as if nothing followed, and what stands behind it as if nothing
had been before.
-/

namespace Daybook.Format

open Text

variable {m : Moment} {c x : Char} {cs f g t rest : List Char}

/-! ### Where a token ends -/

/-- The characters that a token can go on with. -/
def continues (c : Char) : Bool := c ∈ ['Y', 'M', 'D', 'o', 'd', 'H', 'h', 'm', 's']

/-- No token that begins before this text reaches into it. -/
def Divides (rest : List Char) : Prop := ∀ c r, rest = c :: r → continues c = false

lemma divides_cons (hc : continues c = false) : Divides (c :: cs) := by
  intro d r h
  cases h
  exact hc

lemma Divides.ne_append (hrest : Divides rest) (w : List Char) (hw : w.all continues = true)
    (h : ∀ r, cs = w ++ r → False) : ∀ r, cs ++ rest = w ++ r → False := by
  intro r heq
  rcases List.append_eq_append_iff.1 heq with ⟨v, rfl, hv⟩ | ⟨v, rfl, -⟩
  · cases v with
    | nil => exact h [] (by rw [List.append_nil, List.append_nil])
    | cons d v =>
      rw [List.all_append, List.all_cons, hrest d _ hv, Bool.false_and, Bool.and_false] at hw
      cases hw
  · exact h v rfl

lemma Divides.ne_append_of {p : Prop} (hrest : Divides rest) (w : List Char)
    (hw : w.all continues = true) (h : ∀ r, p → cs = w ++ r → False) :
    ∀ r, p → cs ++ rest = w ++ r → False :=
  fun r hp => hrest.ne_append w hw (fun r => h r hp) r

/-- Behind every opening bracket comes a closing one. -/
def Closes (f : List Char) : Prop := ∀ s t, f = s ++ '[' :: t → ']' ∈ t

lemma closes_nil : Closes [] := by
  intro s t h
  simp at h

lemma closes_cons : Closes (c :: cs) ↔ (c = '[' → ']' ∈ cs) ∧ Closes cs := by
  constructor
  · intro h
    refine ⟨fun hc => h [] cs (by rw [hc, List.nil_append]), fun s t hcs => h (c :: s) t ?_⟩
    rw [hcs, List.cons_append]
  · rintro ⟨hc, hcs⟩ s t h
    cases s with
    | nil =>
      obtain ⟨rfl, rfl⟩ := List.cons.inj h
      exact hc rfl
    | cons d s => exact hcs s t (List.cons.inj h).2

instance decidableCloses : (f : List Char) → Decidable (Closes f)
  | [] => .isTrue closes_nil
  | _ :: cs =>
    haveI := decidableCloses cs
    decidable_of_iff _ closes_cons.symm

lemma firstToken_bracket (ht : ']' ∉ t) :
    firstToken '[' (t ++ ']' :: rest) = (.literal t, t.length + 2) := by
  have hinside : ∀ d ∈ t, (d != ']') = true := by
    intro d hd
    rw [bne_iff_ne]
    rintro rfl
    exact ht hd
  have htake : (t ++ ']' :: rest).takeWhile (· != ']') = t := (takeWhile_stop hinside rfl).1
  rw [firstToken, if_pos (by simp), htake]

lemma firstToken_append (hrest : Divides rest) (hc : c = '[' → ']' ∈ cs) :
    firstToken c (cs ++ rest) = firstToken c cs := by
  by_cases hbracket : c = '['
  · subst hbracket
    obtain ⟨t, r, rfl, ht⟩ := List.eq_append_cons_of_mem (hc rfl)
    rw [List.append_assoc, List.cons_append, firstToken_bracket ht, firstToken_bracket ht]
  · fun_cases firstToken c cs
    all_goals try rfl
    all_goals try exact absurd rfl hbracket
    all_goals try simp only [List.cons_append]
    all_goals rw [firstToken]
    -- a longer token is there only if it is there without the text behind
    all_goals first
      | assumption
      | exact hrest.ne_append [_] rfl ‹_›
      | exact hrest.ne_append [_, _] rfl ‹_›
      | exact hrest.ne_append [_, _, _] rfl ‹_›
      | exact hrest.ne_append_of [_] rfl ‹_›
      | exact hrest.ne_append_of [_, _] rfl ‹_›
      | exact hrest.ne_append_of [_, _, _] rfl ‹_›

lemma length_firstToken (c : Char) (cs : List Char) : (firstToken c cs).2 ≤ cs.length + 1 := by
  by_cases hbracket : c = '[' ∧ ']' ∈ cs
  · obtain ⟨rfl, hmem⟩ := hbracket
    obtain ⟨t, r, rfl, ht⟩ := List.eq_append_cons_of_mem hmem
    rw [firstToken_bracket ht, List.length_append, List.length_cons]
    omega
  · fun_cases firstToken c cs
    case case1 h => exact absurd ⟨rfl, h⟩ hbracket
    case case2 h => simp [h]
    all_goals simp

/-! ### Patterns -/

lemma patternFrom_eq (m : Moment) (n : ℕ) (cs : List Char) :
    patternFrom m n cs = patternFrom m 0 (cs.drop n) := by
  induction cs generalizing n with
  | nil => cases n <;> rfl
  | cons c cs ih =>
    cases n with
    | zero => rfl
    | succ n => exact ih n

/-- What stands before a text that divides is written as if it stood alone. -/
lemma patternFrom_append (hf : Closes f) (hrest : Divides rest) :
    patternFrom m 0 (f ++ rest) = patternFrom m 0 f ++ patternFrom m 0 rest := by
  suffices h : ∀ n ≤ f.length, patternFrom m n (f ++ rest) =
      patternFrom m n f ++ patternFrom m 0 rest from h 0 (Nat.zero_le _)
  induction f with
  | nil =>
    intro n hn
    rw [Nat.le_zero.1 hn]
    rfl
  | cons c f ih =>
    rw [closes_cons] at hf
    intro n hn
    cases n with
    | succ n => exact ih hf.2 n (Nat.le_of_succ_le_succ hn)
    | zero =>
      have hlen := length_firstToken c f
      rw [List.cons_append, patternFrom, patternFrom, firstToken_append hrest hf.1]
      dsimp only
      rw [ih hf.2 _ (by omega), List.append_assoc]

lemma patternFrom_bracket (ht : ']' ∉ t) :
    patternFrom m 0 ('[' :: (t ++ ']' :: g)) = t ++ patternFrom m 0 g := by
  rw [patternFrom, firstToken_bracket ht]
  dsimp only [DateToken.chars]
  have hdrop : (t ++ ']' :: g).drop (t.length + 2 - 1) = g := List.drop_length_add_append 1
  rw [patternFrom_eq, hdrop]

/-- A character that belongs to no token and is no bracket. -/
def IsPlain (c : Char) : Prop :=
  c ∉ ['Y', 'M', 'D', 'o', 'd', 'H', 'h', 'm', 's', 'A', 'a', '[', ']']

lemma IsPlain.continues_eq (hx : IsPlain x) : continues x = false := by
  rw [continues, decide_eq_false_iff_not]
  exact fun h => hx (List.mem_append_left ['A', 'a', '[', ']'] h)

lemma patternFrom_plain (hx : IsPlain x) : patternFrom m 0 (x :: g) = x :: patternFrom m 0 g := by
  have htoken : firstToken x g = (.literal [x], 1) := by
    simp only [IsPlain, List.mem_cons, List.not_mem_nil, or_false, not_or] at hx
    rw [firstToken] <;> simp_all
  rw [patternFrom, htoken]
  rfl

lemma patternFrom_plain_append (ht : ∀ c ∈ t, IsPlain c) :
    patternFrom m 0 (t ++ g) = t ++ patternFrom m 0 g := by
  induction t with
  | nil => rfl
  | cons c t ih =>
    rw [List.cons_append, patternFrom_plain (ht c List.mem_cons_self),
      ih fun d hd => ht d (List.mem_cons_of_mem c hd), List.cons_append]

lemma isPlainName_eq_false (h : '[' ∈ f) : isPlainName f = false := by
  obtain ⟨before, after, hf, hbefore, hafter⟩ := exists_trim f
  have hblank : isBlank '[' = false := by decide
  have hmem : '[' ∈ trim f := by
    rw [hf, List.mem_append, List.mem_append] at h
    rcases h with h | h | h
    · exact absurd (hbefore _ h) (by simp [hblank])
    · exact h
    · exact absurd (hafter _ h) (by simp [hblank])
  have hlower : '[' ∈ lower (trim f) := List.mem_map.2 ⟨'[', hmem, by decide⟩
  rw [isPlainName, beq_eq_false_iff_ne]
  intro hname
  rw [hname] at hlower
  exact absurd hlower (by decide)

lemma moment_of_pattern (hf : isPlainName f = false) : moment f m = patternFrom m 0 f := by
  rw [moment, hf]
  rfl

/-- **Formats compose.** Let every opening bracket of a format be closed in it. With a bracketed
text and another format behind, the two formats are written each on its own, and the text between
them is copied; so is a character that belongs to no token. This holds as long as none of the
formats is the one that is a name. -/
theorem moment_composes (hf : Closes f) (hf' : isPlainName f = false)
    (hg : isPlainName g = false) :
    (∀ t, ']' ∉ t →
      moment (f ++ '[' :: (t ++ ']' :: g)) m = moment f m ++ t ++ moment g m) ∧
    ∀ x, IsPlain x → isPlainName (f ++ x :: g) = false →
      moment (f ++ x :: g) m = moment f m ++ x :: moment g m := by
  rw [moment_of_pattern hf', moment_of_pattern hg]
  refine ⟨fun t ht => ?_, fun x hx hwhole => ?_⟩
  · have hwhole : isPlainName (f ++ '[' :: (t ++ ']' :: g)) = false :=
      isPlainName_eq_false (by simp)
    rw [moment_of_pattern hwhole, patternFrom_append hf (divides_cons (by decide)),
      patternFrom_bracket ht, List.append_assoc]
  · rw [moment_of_pattern hwhole, patternFrom_append hf (divides_cons hx.continues_eq),
      patternFrom_plain hx]

def saturday : Moment :=
  .day ⟨1988, 7, 23, by decide, by decide, by decide, by decide, by decide, by decide⟩

/-- Token letters and an opening bracket in brackets, and a token that the next part would have
made longer. -/
theorem moment_composes_nested : Closes "[at [h]ddd".toList ∧
    moment ("[at [h]ddd".toList ++ '[' :: ("D[o".toList ++ ']' :: "ddd]".toList)) saturday =
      "at [hSat".toList ++ "D[o".toList ++ "Sat]".toList ∧
    IsPlain '.' ∧ moment ("[at [h]ddd".toList ++ '.' :: "ddd]".toList) saturday =
      "at [hSat".toList ++ '.' :: "Sat]".toList := by
  have hf : Closes "[at [h]ddd".toList := by decide
  have hplain : IsPlain '.' := by simp [IsPlain]
  have hleft : moment "[at [h]ddd".toList saturday = "at [hSat".toList := by decide
  have hright : moment "ddd]".toList saturday = "Sat]".toList := by decide
  obtain ⟨hbracket, hchar⟩ := moment_composes (m := saturday) hf
    (show isPlainName "[at [h]ddd".toList = false by decide)
    (show isPlainName "ddd]".toList = false by decide)
  rw [hleft, hright] at hbracket hchar
  exact ⟨hf, hbracket "D[o".toList (by decide), hplain, hchar '.' hplain (by decide)⟩

end Daybook.Format
