import Daybook.Proofs.Number.Reading
import Daybook.Proofs.Reading.Chars
import Daybook.Proofs.Reading.Print
import Daybook.Proofs.Text.Words

/-!
Cutting single words off a text. A printed word with a blank behind it is read as it was
written: names, whole numbers and symbols here, decimals in a module of their own.
-/

namespace Daybook

open Text

namespace Token

variable {b c : Char} {cs rest : List Char}

/-- The word is read as it is written, if a blank follows. -/
structure Lexes (t : Token) : Prop where
  ne_nil : t.spelling ≠ []
  isBlank : ∀ c ∈ t.spelling, isBlank c = false
  isEnd : ∀ b rest, Text.isBlank b = true → printEnd? (t.spelling ++ b :: rest) = none
  scan : ∀ b rest, Text.isBlank b = true →
    scan false (t.spelling ++ b :: rest) = some (.ok t, b :: rest)

lemma digitRun_of_decimal? (h : decimal? c = none) :
    Number.digitRun decimal? (c :: cs) = ([], c :: cs) := by
  rw [Number.digitRun, h]

lemma float?_of_decimal? (h : decimal? c = none) : float? (c :: cs) = none := by
  rw [float?, digitRun_of_decimal? h]

lemma int?_of_decimal? (h : decimal? c = none) : int? (c :: cs) = none := by
  have hne : c ≠ '0' := by
    rintro rfl
    cases h
  rw [int?, digit?_of_decimal? h]
  rintro rfl
  exact hne rfl

lemma printEnd?_of_ne (hm : c ≠ '-') (hb : c ≠ '\x7d') : printEnd? (c :: cs) = none := by
  rw [printEnd?.eq_def]
  split
  · rename_i h
    exact absurd (List.cons.inj h).1 hm
  · rename_i h
    exact absurd (List.cons.inj h).1 hb
  · rfl

lemma orElse_of_eq_none {α : Type} {x : Option α} (h : x = none) (y : Unit → Option α) :
    HOrElse.hOrElse x y = y () := by
  rw [h]
  rfl

/-! ### Names -/

lemma name?_of_isWord {w : String} (hw : IsWord w) (hb : isNameChar b = false) :
    name? (w.toList ++ b :: rest) = some (.ok (.name w), b :: rest) := by
  obtain ⟨htake, hdrop⟩ := takeWhile_stop (r := rest) (List.all_eq_true.1 hw.found) hb
  have hne : w.toList ≠ [] := by
    intro h
    have hidentifier := hw.identifier
    rw [h] at hidentifier
    cases hidentifier
  rw [name?, htake, hdrop, if_neg hne, if_pos hw.identifier, String.ofList_toList]

lemma lexes_name {w : String} (hw : IsWord w) : (name w).Lexes := by
  have hidentifier := hw.identifier
  obtain ⟨c, cs, hcs⟩ : ∃ c cs, w.toList = c :: cs := by
    cases h : w.toList with
    | nil =>
      rw [h] at hidentifier
      cases hidentifier
    | cons c cs => exact ⟨c, cs, rfl⟩
  rw [hcs, isIdentifier, Bool.and_eq_true] at hidentifier
  have hstart : isIdentStart c = true := hidentifier.1
  have hdecimal : decimal? c = none := decimal?_of_isIdentStart hstart
  refine ⟨fun h => ?_, fun d hd => ?_, fun b rest _ => ?_, fun b rest hb => ?_⟩
  · rw [spelling, hcs] at h
    cases h
  · -- a blank is no name character
    by_contra hb
    rw [Bool.not_eq_false] at hb
    have hd' := List.all_eq_true.1 hw.found d hd
    rw [isNameChar_of_isBlank hb] at hd'
    cases hd'
  · rw [spelling, hcs]
    refine printEnd?_of_ne ?_ ?_ <;> rintro rfl <;> exact absurd hstart (by decide)
  · have hname : name? (w.toList ++ b :: rest) = some (.ok (.name w), b :: rest) :=
      name?_of_isWord hw (isNameChar_of_isBlank hb)
    rw [spelling]
    rw [hcs, List.cons_append] at hname ⊢
    rw [scan, if_neg Bool.false_ne_true, orElse_of_eq_none (float?_of_decimal? hdecimal),
      orElse_of_eq_none (int?_of_decimal? hdecimal), hname]
    rfl

/-! ### Symbols -/

lemma symbol?_printed {s : Symbol} (hs : s ∈ printedSymbols) (hb : Text.isBlank b = true) :
    symbol? (s.text.toList ++ b :: rest) = some (s, b :: rest) := by
  have hslash : b ≠ '/' := ne_of_isBlank hb (by decide)
  have hstar : b ≠ '*' := ne_of_isBlank hb (by decide)
  simp only [printedSymbols, List.mem_cons, List.not_mem_nil, or_false] at hs
  rcases hs with rfl | rfl | rfl | rfl | rfl | rfl | rfl | rfl <;>
    simp [symbol?, symbols, Symbol.text, after?, hslash.symm, hstar.symm]

lemma lexes_symbol {s : Symbol} (hs : s ∈ printedSymbols) : (symbol s).Lexes := by
  obtain ⟨c, hc, hblank, hdecimal, hname, hbrace, hquotes⟩ : ∃ c, s.text.toList = [c] ∧
      Text.isBlank c = false ∧ decimal? c = none ∧ isNameChar c = false ∧ c ≠ '\x7d' ∧
      ¬ (c = '\'' ∨ c = '"') := by
    simp only [printedSymbols, List.mem_cons, List.not_mem_nil, or_false] at hs
    rcases hs with rfl | rfl | rfl | rfl | rfl | rfl | rfl | rfl <;>
      exact ⟨_, rfl, by decide, by decide, by decide, by decide, by decide⟩
  refine ⟨by simp [spelling, hc], by simpa [spelling, hc] using hblank, fun b rest hb => ?_,
    fun b rest hb => ?_⟩
  · rw [spelling, hc, List.singleton_append, printEnd?.eq_def]
    split
    · rename_i h
      cases h
      cases hb
    · rename_i h
      exact absurd (List.cons.inj h).1 hbrace
    · rfl
  · have hsymbol : symbol? (s.text.toList ++ b :: rest) = some (s, b :: rest) :=
      symbol?_printed hs hb
    -- a symbol begins neither a number nor a name nor a string
    have hnone : name? (c :: b :: rest) = none := by
      rw [name?, List.takeWhile_cons_of_neg (by simp [hname]), if_pos rfl]
    have hstring : string? (c :: b :: rest) = none := by
      rw [string?, if_neg hquotes]
    rw [spelling]
    rw [hc, List.singleton_append] at hsymbol ⊢
    rw [scan, if_neg Bool.false_ne_true, orElse_of_eq_none (float?_of_decimal? hdecimal),
      orElse_of_eq_none (int?_of_decimal? hdecimal), orElse_of_eq_none hnone,
      orElse_of_eq_none hstring, hsymbol]
    rfl

/-! ### Whole numbers -/

lemma stops_blank (hb : Text.isBlank b = true) : Number.Stops (b :: rest) :=
  Number.stops_cons (decimal?_of_isBlank hb) (ne_of_isBlank hb (by decide))

lemma takeExponent_blank (hb : Text.isBlank b = true) :
    Number.takeExponent decimal? (b :: rest) = (0, b :: rest) := by
  have hsmall : b ≠ 'e' := ne_of_isBlank hb (by decide)
  have hlarge : b ≠ 'E' := ne_of_isBlank hb (by decide)
  rw [Number.takeExponent, if_neg (not_or.2 ⟨hsmall, hlarge⟩)]

lemma float?_of_digits {ds : List Char} (hds : Number.IsDigits ds) (hb : Text.isBlank b = true) :
    float? (ds ++ b :: rest) = none := by
  have hdot : b ≠ '.' := ne_of_isBlank hb (by decide)
  rw [float?, Number.digitRun_digits hds (stops_blank hb)]
  cases h : Number.digitValues ds with
  | nil => rfl
  | cons => simp [hdot, takeExponent_blank hb]

lemma looseRun_append {digit : Char → Option ℕ} {value : Char → ℕ} {ds r : List Char}
    (hds : ∀ c ∈ ds, digit c = some (value c) ∧ c ≠ '_')
    (hr : ∀ c t, r = c :: t → digit c = none ∧ c ≠ '_') :
    looseRun digit (ds ++ r) = (ds.map value, r) := by
  induction ds with
  | nil =>
    cases r with
    | nil => rfl
    | cons c r =>
      obtain ⟨hd, hu⟩ := hr c r rfl
      rw [List.nil_append, looseRun, hd]
      · rfl
      · intro d cs h
        exact absurd h hu
  | cons c ds ih =>
    obtain ⟨⟨hd, hu⟩, hds'⟩ := List.forall_mem_cons.1 hds
    rw [List.cons_append, looseRun, hd, ih hds']
    · rfl
    · intro d cs h
      exact absurd h hu

lemma looseRun_digits {ds r : List Char} (hds : Number.IsDigits ds) (hr : Number.Stops r) :
    looseRun decimal? (ds ++ r) = (Number.digitValues ds, r) :=
  looseRun_append (fun c hc =>
    ⟨Number.decimal?_of_isDigit (hds c hc), Number.ne_underscore_of_isDigit (hds c hc)⟩) hr

lemma int?_zeros {k : ℕ} (hlimit : k < Number.digitLimit)
    (hrest : ∀ c r, rest = c :: r → base? c = none ∧ c ≠ '0' ∧ c ≠ '_') :
    int? (List.replicate (k + 1) '0' ++ rest) = some (.ok (.int 0), rest) := by
  have hbased : basedInt? (List.replicate k '0' ++ rest) = none := by
    cases k with
    | zero =>
      cases rest with
      | nil => rfl
      | cons c r => rw [List.replicate_zero, List.nil_append, basedInt?, (hrest c r rfl).1]
    | succ k => rfl
  have hrun : looseRun zeroDigit? (List.replicate k '0' ++ rest) =
      ((List.replicate k '0').map fun _ => 0, rest) := by
    refine looseRun_append (fun c hc => ?_) fun c r h => ?_
    · rw [List.eq_of_mem_replicate hc]
      exact ⟨rfl, by decide⟩
    · exact ⟨if_neg (hrest c r h).2.1, (hrest c r h).2.2⟩
  rw [List.replicate_succ, List.cons_append, int?, hbased]
  simp only [hrun, List.length_map, List.length_replicate, if_neg (Nat.not_lt.2 hlimit)]

lemma int?_zeros_blank {k : ℕ} (hlimit : k < Number.digitLimit) (hb : Text.isBlank b = true) :
    int? (List.replicate (k + 1) '0' ++ b :: rest) = some (.ok (.int 0), b :: rest) := by
  refine int?_zeros hlimit fun c r h => ?_
  cases h
  have hbase : base? b = none := by
    rw [base?.eq_def]
    split <;> first | rfl | cases hb
  exact ⟨hbase, ne_of_isBlank hb (by decide), ne_of_isBlank hb (by decide)⟩

lemma int?_digits {ds : List Char} (hds : Number.IsDigits ds) (hne : ds ≠ [])
    (hhead : ds.head? ≠ some '0') (hlimit : ds.length ≤ Number.digitLimit)
    (hrest : Number.Stops rest) :
    int? (ds ++ rest) = some (.ok (.int (ofDigits 10 (Number.digitValues ds))), rest) := by
  obtain ⟨c, cs, rfl⟩ := List.exists_cons_of_ne_nil hne
  have hc : c ≠ '0' := by
    rintro rfl
    exact hhead rfl
  have hrun := looseRun_digits (fun d hd => hds d (List.mem_cons_of_mem c hd)) hrest
  have hlen : ¬ Number.digitLimit < (Number.digitValues cs).length + 1 := by
    rw [Number.digitValues, List.length_map]
    exact Nat.not_lt.2 hlimit
  rw [List.cons_append, int?, Number.digit?_of_isDigit (hds c List.mem_cons_self)]
  · simp only [hrun, if_neg hlen]
    rfl
  · exact hc

lemma int?_of_pos {n : ℕ} (hn : 0 < n) (hlimit : (natDigits n).length ≤ Number.digitLimit)
    (hb : Text.isBlank b = true) :
    int? (natDigits n ++ b :: rest) = some (.ok (.int n), b :: rest) := by
  have hhead : (natDigits n).head? ≠ some '0' := by
    obtain ⟨c, cs, hcs, hc⟩ := Number.head_natDigits hn
    rw [hcs]
    simpa using hc
  have hstops : Number.Stops (b :: rest) := stops_blank hb
  have hint := int?_digits (Number.isDigits_natDigits n) (Number.natDigits_ne_nil n) hhead hlimit
    hstops
  rwa [Number.ofDigits_natDigits] at hint

lemma scan_of_int? {s : Except WordFault Token × List Char} (hfloat : float? cs = none)
    (hint : int? cs = some s) : scan false cs = some s := by
  rw [scan, if_neg Bool.false_ne_true, orElse_of_eq_none hfloat, hint]
  rfl

lemma lexes_int {n : ℕ} (hlimit : (natDigits n).length ≤ Number.digitLimit) : (int n).Lexes := by
  have hdigits := Number.isDigits_natDigits n
  refine ⟨Number.natDigits_ne_nil n, fun c hc => Number.isBlank_of_isDigit (hdigits c hc),
    fun b rest _ => ?_, fun b rest hb => ?_⟩
  · rw [spelling]
    cases hn : natDigits n with
    | nil => exact absurd hn (Number.natDigits_ne_nil n)
    | cons c cs =>
      have hc := hdigits c (by rw [hn]; exact List.mem_cons_self)
      refine printEnd?_of_ne ?_ ?_ <;> rintro rfl <;> cases hc
  · have hint : int? (natDigits n ++ b :: rest) = some (.ok (.int n), b :: rest) := by
      rcases Nat.eq_zero_or_pos n with rfl | hn
      · exact int?_zeros_blank (k := 0) (by decide) hb
      · exact int?_of_pos hn hlimit hb
    exact scan_of_int? (float?_of_digits hdigits hb) hint

end Token

end Daybook
