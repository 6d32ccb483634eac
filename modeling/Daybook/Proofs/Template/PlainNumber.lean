import Daybook.Proofs.Number.Counts
import Daybook.Proofs.Reading.Signed
import Daybook.Proofs.Template.Report

/-!
Plain numbers. A text that is a number has its value without being read as an expression; between
braces it is read as one, as a sign and a decimal or a whole number behind it. Both ways come to
one double, as far as the words of an expression reach: there no whole number begins with a zero
that it does not need.
-/

namespace Daybook

open Number Text

/-! ### Plain numbers as numerals -/

namespace Template

/-- A plain number without its sign. -/
def unsigned (cs : List Char) : List Char :=
  match cs with
  | '-' :: ds => ds
  | _ => cs

/-- What may stand behind the first digits of a plain number: nothing, or a point and digits. -/
def endsPlain : List Char → Bool
  | [] => true
  | '.' :: ds => !ds.isEmpty && ds.all isDigit
  | _ => false

variable {cs ds : List Char} {n : Numeral} {negative : Bool}

lemma isDigit_of_plain {c : Char} (h : Text.isDigit c = true) : c.isDigit = true := by
  rw [Text.isDigit, digit?] at h
  split at h
  · rename_i hc
    have hbounds : 48 ≤ c.toNat ∧ c.toNat ≤ 57 := hc
    simp only [Char.isDigit, Bool.and_eq_true, decide_eq_true_eq, ge_iff_le,
      UInt32.le_iff_toNat_le]
    exact hbounds
  · cases h

lemma signed_unsigned (cs : List Char) : ∃ negative, cs = signed negative (unsigned cs) := by
  rw [unsigned.eq_def]
  split
  · exact ⟨true, rfl⟩
  · exact ⟨false, rfl⟩

lemma unsigned_signed (hn : n.Formed) : unsigned (signed negative n.chars) = n.chars := by
  cases negative with
  | true => rfl
  | false =>
    obtain ⟨c, r, hc, hdigit⟩ := Numeral.head_chars hn
    rw [signed, if_neg Bool.false_ne_true, hc, unsigned.eq_def]
    split
    · rename_i h
      cases h
      cases hdigit
    · rfl

lemma isPlainNumber_eq (cs : List Char) : isPlainNumber cs =
    ((unsigned cs).head?.any Text.isDigit && endsPlain ((unsigned cs).dropWhile Text.isDigit)) :=
  rfl

lemma exists_numeral_of_endsPlain (hds : IsDigits ds) (hne : ds ≠ []) (h : endsPlain cs = true) :
    ∃ n : Numeral, n.Formed ∧ n.exponent = none ∧ ds ++ cs = n.chars := by
  rw [endsPlain.eq_def] at h
  split at h
  · exact ⟨{ whole := ds }, ⟨hds, hne, List.forall_mem_nil _, by rintro s e ⟨⟩⟩, rfl, rfl⟩
  · rename_i fs
    rw [Bool.and_eq_true, Bool.not_eq_true', List.isEmpty_eq_false_iff, List.all_eq_true] at h
    refine ⟨{ whole := ds, fraction := fs },
      ⟨hds, hne, fun c hc => isDigit_of_plain (h.2 c hc), by rintro s e ⟨⟩⟩, rfl, ?_⟩
    rw [Numeral.chars, Numeral.fractionText_of_ne h.1, Numeral.exponentText, List.append_nil]
  · cases h

/-- **A plain number is a numeral without exponent**, perhaps behind a minus sign. -/
lemma exists_numeral (h : isPlainNumber cs = true) : ∃ (negative : Bool) (n : Numeral),
    n.Formed ∧ n.exponent = none ∧ cs = signed negative n.chars := by
  rw [isPlainNumber_eq, Bool.and_eq_true] at h
  obtain ⟨hhead, hrest⟩ := h
  have hds : IsDigits ((unsigned cs).takeWhile Text.isDigit) := fun c hc =>
    isDigit_of_plain (List.mem_takeWhile_imp hc)
  have hne : (unsigned cs).takeWhile Text.isDigit ≠ [] := by
    cases hbody : unsigned cs with
    | nil =>
      rw [hbody] at hhead
      cases hhead
    | cons c r =>
      rw [hbody] at hhead
      have hc : Text.isDigit c = true := hhead
      rw [List.takeWhile_cons_of_pos hc]
      exact List.cons_ne_nil _ _
  obtain ⟨n, hn, hexp, hchars⟩ := exists_numeral_of_endsPlain hds hne hrest
  obtain ⟨negative, hcs⟩ := signed_unsigned cs
  rw [List.takeWhile_append_dropWhile] at hchars
  exact ⟨negative, n, hn, hexp, by rw [← hchars]; exact hcs⟩

lemma point_mem_signed (hn : n.Formed) (hexp : n.exponent = none) :
    '.' ∈ signed negative n.chars ↔ n.fraction ≠ [] := by
  have hsign : '.' ∈ signed negative n.chars ↔ '.' ∈ n.chars := by
    cases negative <;> simp [signed]
  have hwhole : '.' ∉ n.whole := fun h => absurd (hn.whole '.' h) (by decide)
  rw [hsign, Numeral.chars, hexp, Numeral.exponentText, List.append_nil, List.mem_append]
  cases n.fraction with
  | nil => simp [Numeral.fractionText, hwhole]
  | cons d ds => simp [Numeral.fractionText]

lemma chars_of_whole (hexp : n.exponent = none) (hfraction : n.fraction = []) :
    n.chars = n.whole := by
  rw [Numeral.chars, hexp, hfraction]
  simp [Numeral.fractionText, Numeral.exponentText]

end Template

/-! ### Their values -/

namespace Number.Numeral

variable {n : Numeral}

lemma neg_value (n : Numeral) : -n.value false = n.value true := neg_ofDecimal _ _

lemma value_of_ofInt? {x : Float} (hexp : n.exponent = none) (hfraction : n.fraction = [])
    (h : ofInt? (ofDigits 10 (digitValues n.whole) : ℕ) = some x) : n.value false = x := by
  have hnil : digitValues [] = [] := rfl
  rw [← ofDecimal_of_ofInt? h, value, hexp, hfraction, hnil, ofDigitLists, List.append_nil]
  rfl

end Number.Numeral

namespace Template

open Placeholder

variable {r : Registry} {c : Context} {cs text : List Char} {n : Numeral} {negative : Bool}
  {l : Literal} {x : Float}

lemma trim_braced (cs : List Char) : trim (braced cs) = braced cs := by
  refine trim_eq_self (fun d hd => ?_) (fun d hd => ?_)
  · cases hd
    rfl
  · have hlast : braced cs = ('\x7b' :: '\x7b' :: (cs ++ ['\x7d'])) ++ ['\x7d'] := by
      simp [braced]
    rw [hlast, List.getLast?_concat] at hd
    cases hd
    rfl

/-- A value as the answer that a text has: a number or a moment. -/
def answer (v : Value) : Outcome Scalar :=
  match v.scalar? with
  | some x => .ok x
  | none => .fault .unresolved

lemma value_of_braced (hne : cs ≠ []) (hcs : ∀ d ∈ cs, isExpression d = true) :
    (value r c (braced cs)).2 = Expr.read cs >>= Expr.evaluate r c >>= answer := by
  have hproper : (make cs none).Proper := .plain hne hcs
  have hsource : (make cs none).source = braced cs := by simp [make, braced]
  have hplain : isPlainNumber (trim (braced cs)) = false := by
    rw [trim_braced]
    rfl
  have hvalue : (make cs none).value r c = Expr.read cs >>= Expr.evaluate r c := rfl
  rw [value_eq hplain, resolve, ← hsource, find_source hproper, resolveAll_cons, resolveOne_eq,
    hvalue]
  rcases Expr.read cs >>= Expr.evaluate r c with stop | v
  · rfl
  · simp only [ok_bind, answer]
    cases v.scalar? <;> rfl

lemma isExpression_of_isDigit {d : Char} (h : d.isDigit = true) : isExpression d = true := by
  have hword : isWord d = true := by
    rw [isWord, charClass_of_decimal? (decimal?_of_isDigit h), Bool.or_true]
  rw [isExpression, isCommon, hword, Bool.true_or, Bool.true_or, Bool.true_or]

lemma isExpression_of_mem_signed (hn : n.Formed) :
    ∀ d ∈ signed negative n.chars, isExpression d = true := by
  have hchars : ∀ d ∈ n.chars, isExpression d = true := by
    intro d hd
    rcases Numeral.mem_chars hn hd with h | h
    · exact isExpression_of_isDigit h
    · have hothers : ['.', 'e', '+', '-'].all isExpression = true := by decide
      exact List.all_eq_true.1 hothers d h
  cases negative with
  | false => exact hchars
  | true => exact List.forall_mem_cons.2 ⟨by decide, hchars⟩

lemma digital_chars (hn : n.Formed) : Digital n.chars := Numeral.head_chars hn

lemma value_braced_signed (hn : n.Formed) :
    (value r c (braced (signed negative n.chars))).2 =
      Expr.read (signed negative n.chars) >>= Expr.evaluate r c >>= answer :=
  value_of_braced (signed_ne_nil (digital_chars hn)) (isExpression_of_mem_signed hn)

lemma value_of_literal (hn : n.Formed) (hl : (∃ m, l = .int m) ∨ ∃ x, l = .float x)
    (hcuts : Token.Cuts n.chars [l.token])
    (hvalue : l.toValue = .ok (.number (n.value false))) :
    (value r c (braced (signed negative n.chars))).2 = .ok (.number (n.value negative)) := by
  have hsign : (if negative then -n.value false else n.value false) = n.value negative := by
    cases negative with
    | false => rfl
    | true => exact n.neg_value
  rw [value_braced_signed hn,
    Expr.read_literal hl (digital_chars hn) (Numeral.isBlank_of_mem hn) hcuts, ok_bind,
    Expr.evaluate_signed hvalue, hsign]
  rfl

lemma value_of_fraction (hn : n.Formed) (hfraction : n.fraction ≠ []) :
    (value r c (braced (signed negative n.chars))).2 = .ok (.number (n.value negative)) := by
  have hscan : Token.scan false (n.chars ++ Expr.closing) =
      some (.ok (.float (n.value false)), Expr.closing) :=
    Numeral.scan_chars hn (.inl hfraction) (Numeral.ends_blank rfl)
  have hcuts : Token.Cuts n.chars [.float (n.value false)] :=
    Token.cuts_nil.number (digital_chars hn) hscan (by simp) (digital_chars hn).length_pos
  exact value_of_literal (l := .float (n.value false)) hn (.inr ⟨_, rfl⟩) hcuts rfl

lemma value_of_whole (hn : n.Formed) (hexp : n.exponent = none) (hfraction : n.fraction = [])
    (hpadded : ¬ Padded n.whole) (hlimit : n.whole.length ≤ digitLimit)
    (hrange : (ofInt? (ofDigits 10 (digitValues n.whole) : ℕ)).isSome = true) :
    (value r c (braced (signed negative n.chars))).2 = .ok (.number (n.value negative)) := by
  obtain ⟨x, hx⟩ := Option.isSome_iff_exists.1 hrange
  have hcuts : Token.Cuts n.chars [.int (ofDigits 10 (digitValues n.whole))] := by
    rw [chars_of_whole hexp hfraction]
    exact Token.cuts_whole hn.whole hn.whole_ne hpadded hlimit
  have hvalue : (Literal.int (ofDigits 10 (digitValues n.whole))).toValue =
      .ok (.number (n.value false)) := by
    rw [Literal.toValue, Summary.ofInt, hx, Numeral.value_of_ofInt? hexp hfraction hx]
  exact value_of_literal hn (.inl ⟨_, rfl⟩) hcuts hvalue

lemma value_of_padded (hn : n.Formed) (hexp : n.exponent = none) (hfraction : n.fraction = [])
    (hpadded : Padded n.whole) (hlimit : n.whole.length ≤ digitLimit) :
    (value r c (braced (signed negative n.chars))).2 =
      .fault (.unreadable (String.ofList (signed negative n.chars))
        (some (.expected "end of print statement" "integer"))) := by
  obtain ⟨m, hcuts⟩ := Token.cuts_padded hn.whole hpadded hlimit
  rw [← chars_of_whole hexp hfraction] at hcuts
  rw [value_braced_signed hn,
    Expr.read_twoNumbers (digital_chars hn) (Numeral.isBlank_of_mem hn) hcuts]
  rfl

/-- **A plain number has one value**, whether it is read as a number or, between braces, as an
expression. A number with a point always has. A whole number has if it is in the range of doubles
and does not begin with a zero that it does not need; with such a zero it is no expression. -/
theorem value_braced (h : isPlainNumber (trim text) = true) :
    ∃ x : Float, ∀ (r : Registry) (c : Context),
      (value r c text).2 = .ok (.number x) ∧ (value r c (trim text)).2 = .ok (.number x) ∧
      ('.' ∈ trim text → (value r c (braced (trim text))).2 = .ok (.number x)) ∧
      ('.' ∉ trim text → (unsigned (trim text)).length ≤ digitLimit →
        (¬ Padded (unsigned (trim text)) →
          (ofInt? (ofDigits 10 (digitValues (unsigned (trim text))) : ℕ)).isSome = true →
          (value r c (braced (trim text))).2 = .ok (.number x)) ∧
        (Padded (unsigned (trim text)) →
          (value r c (braced (trim text))).2 =
            .fault (.unreadable (String.ofList (trim text))
              (some (.expected "end of print statement" "integer"))))) := by
  obtain ⟨negative, n, hn, hexp, htext⟩ := exists_numeral h
  have htrim : trim (trim text) = trim text := by
    rw [htext]
    exact trim_of_not_blank (isBlank_of_mem_signed (Numeral.isBlank_of_mem hn))
  have hread : ofText? (trim text) = some (n.value negative) := by
    rw [htext]
    exact Numeral.ofText?_chars hn negative
  refine ⟨n.value negative, fun r c => ⟨?_, ?_, fun hpoint => ?_, fun hpoint hlimit => ?_⟩⟩
  · simp only [value, h, if_true, hread]
  · simp only [value, htrim, h, if_true, hread]
  · rw [htext] at hpoint ⊢
    exact value_of_fraction hn ((point_mem_signed hn hexp).1 hpoint)
  · -- without a point the text is a whole number to the lexer, and zeros in front matter
    have hfraction : n.fraction = [] := by
      rw [htext, point_mem_signed hn hexp, ne_eq, Decidable.not_not] at hpoint
      exact hpoint
    have hwhole : unsigned (trim text) = n.whole := by
      rw [htext, unsigned_signed hn, chars_of_whole hexp hfraction]
    rw [hwhole] at hlimit ⊢
    rw [htext]
    exact ⟨fun hpadded => value_of_whole hn hexp hfraction hpadded hlimit,
      fun hpadded => value_of_padded hn hexp hfraction hpadded hlimit⟩

/-- The zero with a sign keeps its sign on both ways. -/
theorem value_braced_negativeZero : isPlainNumber (trim " -0 ".toList) = true ∧
    (value oneSeries {} " -0 ".toList).2 = .ok (.number (zero true)) ∧
    (value oneSeries {} (braced (trim " -0 ".toList))).2 = .ok (.number (zero true)) := by
  have hplain : isPlainNumber (trim " -0 ".toList) = true := by decide +kernel
  have hzero : (value oneSeries {} " -0 ".toList).2 = .ok (.number (zero true)) := by
    decide +kernel
  obtain ⟨x, hx⟩ := value_braced hplain
  obtain ⟨htext, -, -, hwhole⟩ := hx oneSeries {}
  have hpoint : '.' ∉ trim " -0 ".toList := by decide +kernel
  have hbraced := (hwhole hpoint (by decide +kernel)).1 (by decide +kernel) (by decide +kernel)
  rw [← htext, hzero] at hbraced
  exact ⟨hplain, hzero, hbraced⟩

/-- A plain number that is no expression, and one whose value is out of range only there. -/
theorem value_braced_exceptions :
    (isPlainNumber (trim "007".toList) = true ∧
      (value oneSeries {} "007".toList).2 = .ok (.number 7.0) ∧
      (value oneSeries {} (braced "007".toList)).2 ≠ .ok (.number 7.0)) ∧
    (isPlainNumber (trim ('1' :: List.replicate 309 '0')) = true ∧
      (value oneSeries {} ('1' :: List.replicate 309 '0')).2 = .ok (.number (infinity false)) ∧
      (value oneSeries {} (braced ('1' :: List.replicate 309 '0'))).2 = .abort .intTooLarge) := by
  refine ⟨⟨?_, ?_, ?_⟩, ⟨?_, ?_, ?_⟩⟩ <;> decide +kernel

end Template

end Daybook
