import Daybook.Proofs.Number.Numeral
import Daybook.Proofs.Reading.Chars
import Daybook.Proofs.Text.Words

/-!
Reading a numeral. Its parts are found one after the other, and a numeral that stands alone, or
behind a minus sign, is read as the double that its digits are for.
-/

namespace Daybook.Number

open Text

lemma isBlank_of_isDigit {c : Char} (h : c.isDigit = true) : isBlank c = false := by
  by_contra hb
  rw [Bool.not_eq_false] at hb
  have hdecimal := decimal?_of_isDigit h
  rw [decimal?_of_isBlank hb] at hdecimal
  cases hdecimal

namespace Numeral

variable {n : Numeral} {rest : List Char}

def exponentValue : Option (Bool × List Char) → Int
  | none => 0
  | some (s, ds) => withSign s (ofDigits 10 (digitValues ds))

/-- The double that a numeral is read as behind a sign, or behind none. -/
def value (negative : Bool) (n : Numeral) : Float :=
  ofDigitLists negative (digitValues n.whole) (digitValues n.fraction) (exponentValue n.exponent)

/-- Nothing that a numeral could go on with. -/
def Ends (rest : List Char) : Prop :=
  ∀ c r, rest = c :: r → decimal? c = none ∧ c ≠ '_' ∧ c ≠ '.' ∧ ¬ (c = 'e' ∨ c = 'E')

lemma ends_nil : Ends [] := nofun

lemma ends_blank {b : Char} (hb : isBlank b = true) : Ends (b :: rest) := by
  intro c r h
  cases h
  exact ⟨decimal?_of_isBlank hb, ne_of_isBlank hb (by decide), ne_of_isBlank hb (by decide),
    not_or.2 ⟨ne_of_isBlank hb (by decide), ne_of_isBlank hb (by decide)⟩⟩

lemma Ends.stops (h : Ends rest) : Stops rest := fun c r hr => ⟨(h c r hr).1, (h c r hr).2.1⟩

lemma stops_exponent (e : Option (Bool × List Char)) (h : Ends rest) :
    Stops (exponentText e ++ rest) := by
  cases e with
  | none => exact h.stops
  | some => exact stops_cons rfl (by decide)

lemma stops_fraction (cs : List Char) (h : Stops rest) : Stops (fractionText cs ++ rest) := by
  cases cs with
  | nil => exact h
  | cons => exact stops_cons rfl (by decide)

lemma takeExponent_text {e : Option (Bool × List Char)}
    (he : ∀ s ds, e = some (s, ds) → IsDigits ds ∧ ds ≠ []) (h : Ends rest) :
    takeExponent decimal? (exponentText e ++ rest) = (exponentValue e, rest) := by
  rcases e with _ | ⟨s, ds⟩
  · cases rest with
    | nil => rfl
    | cons c r =>
      rw [exponentText, List.nil_append, takeExponent, if_neg (h c r rfl).2.2.2]
      rfl
  · obtain ⟨hds, hne⟩ := he s ds rfl
    have hrun := digitRun_digits hds h.stops
    cases hv : digitValues ds with
    | nil => exact absurd (List.map_eq_nil_iff.1 hv) hne
    | cons d vs =>
      rw [hv] at hrun
      cases s <;> simp [exponentText, takeExponent, takeSign, hrun, exponentValue, hv]

lemma digitRun_chars (hn : n.Formed) (h : Ends rest) :
    digitRun decimal? (n.chars ++ rest) =
      (digitValues n.whole, fractionText n.fraction ++ (exponentText n.exponent ++ rest)) := by
  rw [chars, List.append_assoc, List.append_assoc]
  exact digitRun_digits hn.whole (stops_fraction _ (stops_exponent _ h))

/-! ### The characters of a numeral -/

lemma mem_chars (hn : n.Formed) {c : Char} (hc : c ∈ n.chars) :
    c.isDigit = true ∨ c ∈ ['.', 'e', '+', '-'] := by
  rw [chars, List.mem_append, List.mem_append] at hc
  rcases hc with hc | hc | hc
  · exact .inl (hn.whole c hc)
  · cases hf : n.fraction with
    | nil =>
      rw [hf] at hc
      cases hc
    | cons d ds =>
      rw [hf, fractionText, List.mem_cons, ← hf] at hc
      rcases hc with rfl | hc
      · exact .inr (by decide)
      · exact .inl (hn.fraction c hc)
  · rcases he : n.exponent with _ | ⟨s, ds⟩
    · rw [he] at hc
      cases hc
    · rw [he, exponentText, List.mem_cons, List.mem_cons] at hc
      rcases hc with rfl | rfl | hc
      · exact .inr (by decide)
      · cases s <;> exact .inr (by decide)
      · exact .inl ((hn.exponent s ds he).1 c hc)

lemma isBlank_of_mem (hn : n.Formed) : ∀ c ∈ n.chars, isBlank c = false := by
  intro c hc
  rcases mem_chars hn hc with h | h
  · exact isBlank_of_isDigit h
  · have hothers : (['.', 'e', '+', '-'].any isBlank) = false := by decide
    exact Bool.eq_false_iff.2 (List.any_eq_false.1 hothers c h)

lemma head_chars (hn : n.Formed) : ∃ c cs, n.chars = c :: cs ∧ c.isDigit = true := by
  cases hw : n.whole with
  | nil => exact absurd hw hn.whole_ne
  | cons c cs =>
    refine ⟨c, _, by rw [chars, hw]; rfl, hn.whole c ?_⟩
    rw [hw]
    exact List.mem_cons_self

/-! ### A numeral alone -/

lemma decimalBody?_chars (hn : n.Formed) (negative : Bool) :
    decimalBody? negative n.chars = some (n.value negative) := by
  have hrun := digitRun_chars hn ends_nil
  have hexp := takeExponent_text hn.exponent ends_nil
  rw [List.append_nil] at hrun hexp
  have hnil : digitValues [] = [] := rfl
  rw [decimalBody?, hrun]
  cases hw : digitValues n.whole with
  | nil => exact absurd (List.map_eq_nil_iff.1 hw) hn.whole_ne
  | cons v vs =>
    cases hf : n.fraction with
    | nil =>
      rcases he : n.exponent with _ | ⟨s, ds⟩
      · simp [fractionText, exponentText, takeExponent, exponentValue, value, hw, hf, he, hnil]
      · rw [he, exponentText] at hexp
        simp [fractionText, exponentText, hexp, value, hw, hf, he, hnil]
    | cons d ds =>
      have hfrac := digitRun_digits hn.fraction (stops_exponent n.exponent ends_nil)
      rw [hf, List.append_nil] at hfrac
      rw [List.cons_append] at hfrac
      simp [fractionText, hfrac, hexp, value, hw, hf]

lemma lower_chars_ne (hn : n.Formed) {d : Char} {ds : List Char} (hd : d.isDigit = false) :
    lower n.chars ≠ d :: ds := by
  obtain ⟨c, cs, hcs, hc⟩ := head_chars hn
  intro h
  rw [hcs, lower, List.map_cons] at h
  have hlower : lowerAscii c = c := by
    refine if_neg fun h => ?_
    have hbounds := bounds_of_isDigit hc
    have hcapital : 65 ≤ c.toNat := h.1
    omega
  rw [(List.cons.inj h).1.symm, hlower, hc] at hd
  cases hd

lemma ofText?_of_takeSign (hn : n.Formed) {cs : List Char} {negative : Bool}
    (hcs : ∀ c ∈ cs, isBlank c = false) (hsign : takeSign cs = (negative, n.chars)) :
    ofText? cs = some (n.value negative) := by
  simp only [ofText?, trim_of_not_blank hcs, hsign]
  rw [if_neg, if_neg (lower_chars_ne hn (by decide)), decimalBody?_chars hn]
  exact not_or.2 ⟨lower_chars_ne hn (by decide), lower_chars_ne hn (by decide)⟩

lemma takeSign_chars (hn : n.Formed) : takeSign n.chars = (false, n.chars) := by
  obtain ⟨c, cs, hcs, hc⟩ := head_chars hn
  rw [hcs, takeSign.eq_def]
  split
  · rename_i h
    cases h
    cases hc
  · rename_i h
    cases h
    cases hc
  · rfl

/-- **A numeral is read as its value**, also behind a minus sign. -/
lemma ofText?_chars (hn : n.Formed) (negative : Bool) :
    ofText? (if negative then '-' :: n.chars else n.chars) = some (n.value negative) := by
  cases negative with
  | false => exact ofText?_of_takeSign hn (isBlank_of_mem hn) (takeSign_chars hn)
  | true =>
    exact ofText?_of_takeSign hn (List.forall_mem_cons.2 ⟨rfl, isBlank_of_mem hn⟩) rfl

end Numeral

end Daybook.Number
