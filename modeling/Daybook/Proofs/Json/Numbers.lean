import Daybook.Json.Read
import Daybook.Json.Write
import Daybook.Proofs.Number.Reading

/-!
Numbers and words of JSON. A whole number is read as such, a numeral as the double that it has
when it stands alone, and a word as what it stands for.
-/

namespace Daybook.Json

open Number Text

variable {ds rest : List Char} {negative : Bool}

/-- What may stand behind a written value: nothing, a comma or the end of a line. -/
def Follows (rest : List Char) : Prop := ∀ c r, rest = c :: r → c = ',' ∨ c = '\n'

lemma follows_nil : Follows [] := nofun

lemma follows_comma (r : List Char) : Follows (',' :: r) := by
  rintro c r h
  cases h
  exact .inl rfl

lemma follows_newline (depth : ℕ) (r : List Char) : Follows (newline depth ++ r) := by
  rintro c r h
  cases h
  exact .inr rfl

lemma Follows.ends (h : Follows rest) : Numeral.Ends rest := by
  intro c r hr
  rcases h c r hr with rfl | rfl <;> decide

/-! ### Digits -/

lemma isDigit_of_isDigit {c : Char} (h : c.isDigit = true) : Text.isDigit c = true := by
  rw [Text.isDigit, digit?_of_isDigit h]
  rfl

lemma isDigit_of_decimal? {c : Char} (h : decimal? c = none) : Text.isDigit c = false := by
  rw [Text.isDigit, Option.isSome_eq_false_iff, Option.isNone_iff_eq_none]
  cases hd : digit? c with
  | none => rfl
  | some n =>
    rw [decimal?_of_digit? hd] at h
    cases h

lemma span_digits (hds : IsDigits ds) (h : Stops rest) :
    (ds ++ rest).takeWhile Text.isDigit = ds ∧ (ds ++ rest).dropWhile Text.isDigit = rest := by
  have hall : ∀ c ∈ ds, Text.isDigit c = true := fun c hc => isDigit_of_isDigit (hds c hc)
  cases rest with
  | nil =>
    rw [List.takeWhile_append_of_pos hall, List.dropWhile_append_of_pos hall]
    exact ⟨List.append_nil ds, rfl⟩
  | cons c r => exact takeWhile_stop hall (isDigit_of_decimal? (h c r rfl).1)

lemma filterMap_digit? (hds : IsDigits ds) : ds.filterMap digit? = digitValues ds := by
  rw [digitValues, ← List.filterMap_eq_map]
  exact List.filterMap_congr fun c hc => digit?_of_isDigit (hds c hc)

lemma number_digits (hds : IsDigits ds) (hne : ds ≠ [])
    (hfirst : ds = ['0'] ∨ ds.head? ≠ some '0') (h : Stops rest) :
    number negative (ds ++ rest) = numberRest negative (digitValues ds) rest := by
  rcases hfirst with rfl | hfirst
  · rfl
  · obtain ⟨htake, hdrop⟩ := span_digits hds h
    obtain ⟨c, cs, rfl⟩ := List.exists_cons_of_ne_nil hne
    have hzero : ∀ r, c :: cs ++ rest ≠ '0' :: r := by
      rintro r hr
      cases hr
      exact hfirst rfl
    rw [number.eq_def]
    split
    · rename_i r hr
      exact absurd hr (hzero r)
    · simp only [htake, hdrop, if_neg hne, filterMap_digit? hds]

/-! ### What follows the digits -/

lemma fraction?_digits (hds : IsDigits ds) (hne : ds ≠ []) (h : Stops rest) :
    fraction? ('.' :: ds ++ rest) = some (digitValues ds, rest) := by
  obtain ⟨htake, hdrop⟩ := span_digits hds h
  rw [List.cons_append, fraction?]
  simp only [htake, hdrop, if_neg hne, filterMap_digit? hds]

lemma fraction?_eq_none (h : ∀ r, rest ≠ '.' :: r) : fraction? rest = none := by
  rw [fraction?.eq_def]
  split
  · rename_i r
    exact absurd rfl (h r)
  · rfl

lemma exponent?_digits {s : Bool} (hds : IsDigits ds) (hne : ds ≠ []) (h : Stops rest) :
    exponent? (Numeral.exponentText (some (s, ds)) ++ rest) =
      some (Numeral.exponentValue (some (s, ds)), rest) := by
  obtain ⟨htake, hdrop⟩ := span_digits hds h
  cases s <;> simp [Numeral.exponentText, exponent?, takeSign, htake, hdrop, hne,
    filterMap_digit? hds, Numeral.exponentValue]

lemma exponent?_eq_none (h : Numeral.Ends rest) : exponent? rest = none := by
  cases rest with
  | nil => rfl
  | cons c r => rw [exponent?, if_neg (h c r rfl).2.2.2]

lemma numberRest_whole {whole : List ℕ} (hlimit : whole.length ≤ digitLimit)
    (h : Numeral.Ends rest) :
    numberRest negative whole rest = .ok (.int (withSign negative (ofDigits 10 whole)), rest) := by
  have hfraction : fraction? rest = none :=
    fraction?_eq_none fun r hr => (h '.' r hr).2.2.1 rfl
  rw [numberRest, hfraction, exponent?_eq_none h]
  exact if_neg (Nat.not_lt.2 hlimit)

lemma numberRest_numeral {n : Numeral} (hn : n.Valid) (h : Numeral.Ends rest) :
    numberRest negative (digitValues n.whole)
      (Numeral.fractionText n.fraction ++ (Numeral.exponentText n.exponent ++ rest)) =
        .ok (.float (n.value negative), rest) := by
  have hexponent : ∀ s ds, n.exponent = some (s, ds) →
      exponent? (Numeral.exponentText n.exponent ++ rest) =
        some (Numeral.exponentValue n.exponent, rest) := by
    intro s ds he
    obtain ⟨hds, hne⟩ := hn.exponent s ds he
    rw [he]
    exact exponent?_digits hds hne h.stops
  -- a fraction or an exponent is there, or the number would be a whole one
  cases hf : n.fraction with
  | nil =>
    rcases he : n.exponent with _ | ⟨s, ds⟩
    · exact absurd hn.decimal (by simp [hf, he])
    · have hnone : fraction? (Numeral.exponentText n.exponent ++ rest) = none := by
        refine fraction?_eq_none fun r hr => ?_
        rw [he] at hr
        cases hr
      rw [Numeral.fractionText, List.nil_append, numberRest, ← he, hnone, hexponent s ds he]
      simp [Numeral.value, hf, digitValues]
  | cons d ds =>
    have hne : n.fraction ≠ [] := by
      rw [hf]
      exact List.cons_ne_nil d ds
    have hfraction : fraction? (Numeral.fractionText n.fraction ++
        (Numeral.exponentText n.exponent ++ rest)) =
          some (digitValues n.fraction, Numeral.exponentText n.exponent ++ rest) := by
      rw [Numeral.fractionText_of_ne hne]
      exact fraction?_digits hn.fraction hne (Numeral.stops_exponent _ h)
    rw [← hf, numberRest, hfraction]
    rcases he : n.exponent with _ | ⟨s, ds⟩
    · simp [Numeral.exponentText, exponent?_eq_none h, Numeral.value, Numeral.exponentValue, he]
    · rw [← he]
      simp [hexponent s ds he, Numeral.value]

/-! ### Scalars -/

lemma word?_minus {c : Char} (hc : c ≠ 'I') (cs : List Char) : word? ('-' :: c :: cs) = none := by
  simp [word?, List.findSome?, after?, Ne.symm hc]

lemma word?_digit {c : Char} (hc : c.isDigit = true) (cs : List Char) : word? (c :: cs) = none := by
  have hne : ∀ d : Char, d.isDigit = false → d ≠ c := by
    rintro d hd rfl
    rw [hc] at hd
    cases hd
  simp [word?, List.findSome?, after?, hne 'n' rfl, hne 't' rfl, hne 'f' rfl, hne 'N' rfl,
    hne 'I' rfl, hne '-' rfl]

lemma scalar_number (negative : Bool) {cs : List Char} (hcs : ∃ c r, cs = c :: r ∧ c.isDigit = true) :
    scalar (if negative then '-' :: cs else cs) = number negative cs := by
  obtain ⟨c, r, rfl, hc⟩ := hcs
  have hne : ∀ d : Char, d.isDigit = false → c ≠ d := by
    rintro d hd rfl
    rw [hc] at hd
    cases hd
  cases negative with
  | true => rw [if_pos rfl, scalar, word?_minus (hne 'I' rfl)]
  | false =>
    rw [if_neg Bool.false_ne_true, scalar, word?_digit hc]
    rintro rest h
    exact absurd (List.cons.inj h).1 (hne '-' rfl)

lemma number_natDigits {m : ℕ} (hm : (natDigits m).length ≤ digitLimit) (h : Follows rest) :
    number negative (natDigits m ++ rest) = .ok (.int (withSign negative m), rest) := by
  have hfirst : natDigits m = ['0'] ∨ (natDigits m).head? ≠ some '0' := by
    rcases Nat.eq_zero_or_pos m with rfl | hpos
    · exact .inl rfl
    · obtain ⟨c, cs, hcs, hc⟩ := head_natDigits hpos
      exact .inr (by simpa [hcs] using hc)
  have hlimit : (digitValues (natDigits m)).length ≤ digitLimit := by
    rwa [digitValues, List.length_map]
  rw [number_digits (isDigits_natDigits m) (natDigits_ne_nil m) hfirst h.ends.stops,
    numberRest_whole hlimit h.ends, ofDigits_natDigits]

lemma head_append {ds : List Char} (hds : IsDigits ds) (hne : ds ≠ []) (rest : List Char) :
    ∃ c r, ds ++ rest = c :: r ∧ c.isDigit = true := by
  obtain ⟨c, cs, rfl⟩ := List.exists_cons_of_ne_nil hne
  exact ⟨c, cs ++ rest, rfl, hds c List.mem_cons_self⟩

/-- **A whole number is read back.** -/
lemma scalar_int {n : Int} (hn : (natDigits n.natAbs).length ≤ digitLimit) (h : Follows rest) :
    scalar (intDigits n ++ rest) = .ok (.int n, rest) := by
  cases n with
  | ofNat m =>
    have hhead := head_append (isDigits_natDigits m) (natDigits_ne_nil m) rest
    exact (scalar_number false hhead).trans (number_natDigits hn h)
  | negSucc m =>
    have hhead := head_append (isDigits_natDigits (m + 1)) (natDigits_ne_nil _) rest
    exact (scalar_number true hhead).trans (number_natDigits hn h)

/-- **A double is read back**, if its decimal has it as its value. -/
lemma scalar_float {x : Float} (hnan : x.isNaN = false) (hx : ofText? (Number.chars x) = some x)
    (h : Follows rest) : scalar (floatChars x ++ rest) = .ok (.float x, rest) := by
  rw [floatChars]
  -- the names of the three special values are words, all others are numbers
  cases hparts : parts x with
  | nan =>
    have hvalue : notANumber = x := by
      rw [Number.chars, hparts] at hx
      exact Option.some.inj hx
    rw [← hvalue] at hnan
    exact absurd hnan (by decide +kernel)
  | infinite s =>
    cases s with
    | false =>
      have hvalue : infinity false = x := by
        rw [Number.chars, hparts] at hx
        exact Option.some.inj hx
      rw [← hvalue]
      rfl
    | true =>
      have hvalue : infinity true = x := by
        rw [Number.chars, hparts] at hx
        exact Option.some.inj hx
      rw [← hvalue]
      rfl
  | finite s m e =>
    obtain ⟨n, hn, hchars⟩ := exists_signed hparts
    have hvalue : n.value s = x := by
      rw [hchars] at hx
      exact Option.some.inj ((Numeral.ofText?_chars hn.toFormed s).symm.trans hx)
    have hhead : ∃ c r, n.chars ++ rest = c :: r ∧ c.isDigit = true := by
      obtain ⟨c, cs, hcs, hc⟩ := Numeral.head_chars hn.toFormed
      exact ⟨c, cs ++ rest, by rw [hcs]; rfl, hc⟩
    have hnumber : number s (n.chars ++ rest) = .ok (.float x, rest) := by
      rw [Numeral.chars, List.append_assoc, List.append_assoc,
        number_digits hn.whole hn.whole_ne hn.unpadded
          (Numeral.stops_fraction _ (Numeral.stops_exponent _ h.ends)),
        numberRest_numeral hn h.ends, hvalue]
    rw [← hnumber, ← scalar_number s hhead]
    dsimp only
    rw [hchars]
    cases s <;> rfl

end Daybook.Json
