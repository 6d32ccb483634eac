import Daybook.Format.Date
import Daybook.Format.Number
import Daybook.Proofs.Evaluation.Basic
import Daybook.Proofs.Text.Braces

/-!
Formatted values have no braces: a brace in a written number or moment stands in its format
already.
-/

namespace Daybook

open Text

/-! ### Decimals -/

namespace Number

variable {cs : List Char}

lemma braceFree_natDigits (n : ℕ) : BraceFree (natDigits n) :=
  braceFree_of_isDigits (isDigits_natDigits n)

lemma braceFree_paddedNat (width n : ℕ) : BraceFree (paddedNat width n) :=
  braceFree_append.2 ⟨braceFree_replicate _ rfl, braceFree_natDigits n⟩

lemma braceFree_withPoint (keepPoint : Bool) (places n : ℕ) :
    BraceFree (withPoint keepPoint places n) := by
  have hd : BraceFree (paddedNat (places + 1) n) := braceFree_paddedNat _ _
  refine braceFree_append.2 ⟨hd.subset (List.take_subset _ _), ?_⟩
  split
  · exact braceFree_nil
  · exact braceFree_cons.2 ⟨rfl, hd.subset (List.drop_subset _ _)⟩

lemma braceFree_exponentText (width : ℕ) (e : Int) : BraceFree (exponentText width e) := by
  refine braceFree_cons.2 ⟨rfl, braceFree_cons.2 ⟨?_, braceFree_paddedNat _ _⟩⟩
  split <;> rfl

lemma cutZeros_subset (cs : List Char) : cutZeros cs ⊆ cs := by
  rw [cutZeros]
  split
  · have h : cs.reverse.dropWhile (· == '0') ⊆ cs := fun c hc =>
      List.mem_reverse.1 ((List.dropWhile_suffix _).subset hc)
    intro c hc
    rw [List.mem_reverse] at hc
    split at hc
    · rename_i r hr
      exact h (hr ▸ List.mem_cons_of_mem _ hc)
    · exact h hc
  · exact List.Subset.refl cs

lemma braceFree_style (s : Style) (keepPoint : Bool) (m : ℕ) (e : Int) (places : ℕ) :
    BraceFree (s.chars keepPoint m e places) := by
  cases s with
  | fixed => exact braceFree_withPoint _ _ _
  | scientific => exact braceFree_append.2 ⟨braceFree_withPoint _ _ _, braceFree_exponentText _ _⟩
  | general =>
    have hcut : ∀ cs, BraceFree cs → BraceFree (if keepPoint then cs else cutZeros cs) := by
      intro cs h
      split
      · exact h
      · exact h.subset (cutZeros_subset cs)
    rw [Style.chars, generalChars]
    dsimp only
    split
    · exact hcut _ (braceFree_withPoint _ _ _)
    · exact braceFree_append.2 ⟨hcut _ (braceFree_withPoint _ _ _), braceFree_exponentText _ _⟩

lemma braceFree_styled (s : Style) (keepPoint : Bool) (places : ℕ) (x : Float) :
    BraceFree (styled s keepPoint places x) := by
  rw [styled]
  split
  · decide
  · split <;> decide
  · dsimp only
    split
    · exact braceFree_cons.2 ⟨rfl, braceFree_style _ _ _ _ _⟩
    · exact braceFree_style _ _ _ _ _

lemma braceFree_positional {ds : List Char} (hcs : BraceFree cs) (hds : BraceFree ds) (w : Int) :
    BraceFree (positional cs ds w) := by
  rw [positional]
  split
  · exact braceFree_append.2 ⟨braceFree_cons.2 ⟨rfl, braceFree_cons.2 ⟨rfl,
      braceFree_replicate _ rfl⟩⟩, hds⟩
  · dsimp only
    split
    · exact braceFree_append.2 ⟨braceFree_append.2 ⟨hds, braceFree_replicate _ rfl⟩, hcs⟩
    · exact braceFree_append.2 ⟨hds.subset (List.take_subset _ _),
        braceFree_cons.2 ⟨rfl, hds.subset (List.drop_subset _ _)⟩⟩

lemma braceFree_write (l : Layout) (h : BraceFree l.wholeEnd) (d : Decimal) :
    BraceFree (l.write d) := by
  have hds := braceFree_natDigits (d.stripFrom 20).digits
  rw [Layout.write]
  dsimp only
  split
  · exact braceFree_positional h hds _
  · refine braceFree_append.2 ⟨?_, braceFree_exponentText _ _⟩
    split
    · exact braceFree_nil
    · rename_i hc
      exact hc ▸ hds
    · rename_i hc
      rw [hc, braceFree_cons] at hds
      exact braceFree_cons.2 ⟨hds.1, braceFree_cons.2 ⟨rfl, hds.2⟩⟩

lemma braceFree_chars (x : Float) : BraceFree (chars x) := by
  rw [chars]
  split
  · decide
  · split <;> decide
  · rename_i s m e _
    have hbody : BraceFree (if m = 0 then '0' :: plain.wholeEnd else plain.write (shortest m e)) := by
      split
      · decide
      · exact braceFree_write plain (by decide) _
    dsimp only
    split
    · exact braceFree_cons.2 ⟨rfl, hbody⟩
    · exact hbody

end Number

/-! ### Number formats -/

namespace Format

variable {f : Flags} {cs rest : List Char} {width : ℕ}

lemma isBrace_toUpper {c : Char} (h : isBrace c = false) : isBrace c.toUpper = false := by
  delta Char.toUpper
  split
  · rename_i hc
    have h1 : 97 ≤ c.val.toNat := UInt32.le_iff_toNat_le.1 hc.1
    have h2 : c.val.toNat ≤ 122 := UInt32.le_iff_toNat_le.1 hc.2
    have hd : ('A'.val - 'a'.val).toNat = 4294967264 := rfl
    refine isBrace_of_lt ?_
    change (c.val + ('A'.val - 'a'.val)).toNat < 123
    rw [UInt32.toNat_add, hd]
    omega
  · exact h

lemma braceFree_padLeft {c : Char} (hc : isBrace c = false) (h : BraceFree cs) :
    BraceFree (padLeft c width cs) :=
  braceFree_append.2 ⟨braceFree_replicate _ hc, h⟩

lemma braceFree_padRight {c : Char} (hc : isBrace c = false) (h : BraceFree cs) :
    BraceFree (padRight c width cs) :=
  braceFree_append.2 ⟨h, braceFree_replicate _ hc⟩

lemma braceFree_splitSign (h : BraceFree cs) :
    BraceFree (splitSign f cs).1 ∧ BraceFree (splitSign f cs).2 := by
  rw [splitSign.eq_def]
  split
  · exact braceFree_append.1 h
  · refine ⟨?_, h⟩
    dsimp only
    split
    · decide
    · split <;> decide

lemma braceFree_padNumber (h : BraceFree cs) : BraceFree (padNumber f width cs) := by
  obtain ⟨hsign, hbody⟩ := braceFree_splitSign (f := f) h
  have hall := braceFree_append.2 ⟨hsign, hbody⟩
  rw [padNumber]
  dsimp only
  split
  · exact braceFree_padRight rfl hall
  · split
    · exact braceFree_append.2 ⟨hsign, braceFree_padLeft rfl hbody⟩
    · exact braceFree_padLeft rfl hall

lemma braceFree_padText (h : BraceFree cs) : BraceFree (padText f width cs) := by
  rw [padText]
  split
  · exact braceFree_padRight rfl h
  · exact braceFree_padLeft rfl h

lemma braceFree_wholeChars (digits : ℕ) (n : Int) : BraceFree (wholeChars digits n) := by
  rw [wholeChars]
  split
  · exact braceFree_cons.2 ⟨rfl, Number.braceFree_paddedNat _ _⟩
  · exact Number.braceFree_paddedNat _ _

lemma braceFree_styleChars (d : Directive) (s : Number.Style) (capitals : Bool) (x : Float) :
    BraceFree (styleChars d s capitals x) := by
  have h := Number.braceFree_styled s d.flags.alternate (d.precision.getD 6) x
  rw [styleChars]
  split
  · intro c hc
    obtain ⟨b, hb, rfl⟩ := List.mem_map.1 hc
    exact isBrace_toUpper (h b hb)
  · exact h

lemma braceFree_directive {d : Directive} {position : ℕ} {x : Float}
    (h : d.write position x = .ok cs) : BraceFree cs := by
  -- the three directives for whole numbers write them alike
  have hwhole : ∀ {z : Except Fault Int}, z.map (fun n =>
      padNumber d.flags d.width (wholeChars (d.precision.getD 1) n)) = .ok cs → BraceFree cs := by
    intro z hz
    cases z with
    | error e => cases hz
    | ok n =>
      cases hz
      exact braceFree_padNumber (braceFree_wholeChars _ _)
  rw [Directive.write.eq_def] at h
  split at h
  · cases h
    exact braceFree_padNumber (braceFree_styleChars _ _ _ _)
  · split at h
    case h_1 | h_2 | h_3 => exact hwhole h
    case h_4 | h_5 | h_6 =>
      cases h
      refine braceFree_padText ?_
      split
      · exact (Number.braceFree_chars x).subset (List.take_subset _ _)
      · exact Number.braceFree_chars x
    all_goals cases h

/-! What is left of a format behind a directive is an end of it. -/

lemma takeFlags_suffix (f : Flags) (cs : List Char) : (takeFlags f cs).2 <:+ cs := by
  fun_induction takeFlags f cs with
  | case6 => exact List.suffix_rfl
  | _ => exact List.IsSuffix.trans ‹_› (List.suffix_cons _ _)

lemma takeNumber_suffix {limit n m : ℕ} (h : takeNumber limit n cs = some (m, rest)) :
    rest <:+ cs := by
  induction cs generalizing n with
  | nil =>
    cases h
    exact List.suffix_rfl
  | cons c cs ih =>
    rw [takeNumber] at h
    split at h
    · cases h
      exact List.suffix_rfl
    · split at h
      · cases h
      · exact (ih h).trans (List.suffix_cons c cs)

lemma takeWidth_suffix {used : Bool} {n : ℕ} (h : takeWidth used cs = .ok (n, rest)) :
    rest <:+ cs := by
  rw [takeWidth.eq_def] at h
  split at h
  · cases h
  · split at h
    · rename_i hn
      cases h
      exact takeNumber_suffix hn
    · cases h

lemma takePrecision_suffix {used : Bool} {n : Option ℕ}
    (h : takePrecision used cs = .ok (n, rest)) : rest <:+ cs := by
  rw [takePrecision.eq_def] at h
  split at h
  · cases h
  · split at h
    · rename_i hn
      cases h
      exact (takeNumber_suffix hn).trans (List.suffix_cons _ _)
    · cases h
  · cases h
    exact List.suffix_rfl

lemma skipSize_suffix (cs : List Char) : skipSize cs <:+ cs := by
  cases cs with
  | nil => exact List.suffix_rfl
  | cons c cs =>
    rw [skipSize]
    split
    · exact List.suffix_cons c cs
    · exact List.suffix_rfl

lemma read_suffix {used : Bool} {d : Directive} (h : Directive.read used cs = .ok (d, rest)) :
    rest <:+ cs := by
  rw [Directive.read] at h
  split at h
  · cases h
  obtain ⟨-, -, h⟩ := bind_eq_ok.1 h
  obtain ⟨⟨width, ws⟩, hw, h⟩ := bind_eq_ok.1 h
  obtain ⟨⟨precision, qs⟩, hp, h⟩ := bind_eq_ok.1 h
  dsimp only at h
  split at h
  · cases h
  · rename_i c r hr
    cases h
    have hskip : rest <:+ skipSize qs := hr ▸ List.suffix_cons c rest
    exact hskip.trans ((skipSize_suffix qs).trans ((takePrecision_suffix hp).trans
      ((takeWidth_suffix hw).trans (takeFlags_suffix {} cs))))

lemma map_eq_ok {g : List Char → List Char} {x : Except Fault (List Char)}
    (h : g <$> x = .ok rest) : ∃ r, x = .ok r ∧ rest = g r := by
  cases x with
  | error e => cases h
  | ok r =>
    cases h
    exact ⟨r, rfl, rfl⟩

lemma braceFree_writeFrom {item : Directive → ℕ → Except Fault (List Char)} {total n : ℕ}
    {used : Bool} (hitem : ∀ d position body, item d position = .ok body → BraceFree body)
    (hcs : BraceFree cs) (h : writeFrom item total n used cs = .ok rest) : BraceFree rest := by
  induction n generalizing used cs rest with
  | zero =>
    cases h
    exact braceFree_nil
  | succ n ih =>
    rw [writeFrom.eq_def] at h
    dsimp only at h
    split at h
    · split at h <;> cases h
      exact braceFree_nil
    · obtain ⟨r, hr, rfl⟩ := map_eq_ok h
      simp only [braceFree_cons] at hcs ⊢
      exact ⟨hcs.1, ih hcs.2.2 hr⟩
    · obtain ⟨⟨d, ts⟩, hd, h⟩ := bind_eq_ok.1 h
      -- what follows a directive is a part of the format still
      have hts : BraceFree ts := (braceFree_cons.1 hcs).2.subset (read_suffix hd).subset
      dsimp only at h
      split at h
      · cases h
      obtain ⟨-, -, h⟩ := bind_eq_ok.1 h
      obtain ⟨body, hbody, h⟩ := bind_eq_ok.1 h
      obtain ⟨r, hr, rfl⟩ := map_eq_ok h
      exact braceFree_append.2 ⟨hitem _ _ _ hbody, ih hts hr⟩
    · obtain ⟨r, hr, rfl⟩ := map_eq_ok h
      rw [braceFree_cons] at hcs ⊢
      exact ⟨hcs.1, ih hcs.2 hr⟩

lemma braceFree_number {format : List Char} {x : Float} (hf : BraceFree format)
    (h : number format x = .ok cs) : BraceFree cs :=
  braceFree_writeFrom (fun _ _ _ => braceFree_directive) (braceFree_cons.2 ⟨rfl, hf⟩) h

/-! ### Date formats -/

lemma braceFree_date (d : Date) : BraceFree d.chars := by
  simp only [Date.chars, braceFree_append, braceFree_cons]
  exact ⟨⟨Number.braceFree_paddedNat _ _, rfl, Number.braceFree_paddedNat _ _⟩, rfl,
    Number.braceFree_paddedNat _ _⟩

lemma braceFree_clock (t : Clock) : BraceFree t.chars := by
  simp only [Clock.chars, braceFree_append, braceFree_cons]
  refine ⟨⟨⟨Number.braceFree_paddedNat _ _, rfl, Number.braceFree_paddedNat _ _⟩, rfl,
    Number.braceFree_paddedNat _ _⟩, ?_⟩
  split
  · exact braceFree_nil
  · exact braceFree_cons.2 ⟨rfl, Number.braceFree_paddedNat _ _⟩

lemma braceFree_momentChars (m : Moment) : BraceFree m.chars := by
  cases m with
  | day d => exact braceFree_date d
  | instant d t =>
    exact braceFree_append.2 ⟨braceFree_date d, braceFree_cons.2 ⟨rfl, braceFree_clock t⟩⟩

lemma braceFree_getD {names : List String} (h : ∀ s ∈ names, BraceFree s.toList) (n : ℕ) :
    BraceFree (names.getD n "").toList := by
  rw [List.getD_eq_getElem?_getD]
  cases hn : names[n]? with
  | none => decide
  | some s => exact h s (List.mem_of_getElem? hn)

lemma braceFree_monthName (d : Date) : BraceFree (monthName d) :=
  braceFree_getD (by decide) _

lemma braceFree_weekdayName (d : Date) : BraceFree (weekdayName d) :=
  braceFree_getD (by decide) _

lemma braceFree_ordinalChars (n : ℕ) : BraceFree (ordinalChars n) := by
  rw [ordinalChars]
  refine braceFree_append.2 ⟨Number.braceFree_natDigits n, ?_⟩
  split
  · decide
  · split <;> decide

lemma braceFree_token {m : Moment} {t : DateToken} (h : ∀ text, t = .literal text → BraceFree text) :
    BraceFree (t.chars m) := by
  have hpadded := Number.braceFree_paddedNat
  have hdigits := Number.braceFree_natDigits
  cases t with
  | literal text => exact h text rfl
  | monthShort => exact (braceFree_monthName _).subset (List.take_subset _ _)
  | monthLong => exact braceFree_monthName _
  | weekdayShort => exact (braceFree_weekdayName _).subset (List.take_subset _ _)
  | weekdayLong => exact braceFree_weekdayName _
  | dayOrdinal => exact braceFree_ordinalChars _
  | halfCapital | halfSmall =>
    rw [DateToken.chars]
    split <;> decide
  | year | shortYear | monthPadded | dayPadded | hourPadded | faceHourPadded | minutePadded
  | secondPadded => exact hpadded _ _
  | month | day | hour | faceHour | minute | second => exact hdigits _

lemma literal_subset {c : Char} {cs text : List Char} (h : (firstToken c cs).1 = .literal text) :
    text ⊆ c :: cs := by
  rw [firstToken.eq_def] at h
  split at h
  case h_1 =>
    split at h
    · cases h
      exact List.Subset.trans (List.takeWhile_prefix _).subset (List.subset_cons_self _ _)
    · cases h
      exact List.cons_subset.2 ⟨List.mem_cons_self, List.nil_subset _⟩
  all_goals cases h
  exact List.cons_subset.2 ⟨List.mem_cons_self, List.nil_subset _⟩

lemma braceFree_patternFrom (m : Moment) (n : ℕ) (h : BraceFree cs) :
    BraceFree (patternFrom m n cs) := by
  induction cs generalizing n with
  | nil => cases n <;> exact braceFree_nil
  | cons c cs ih =>
    have hcs := (braceFree_cons.1 h).2
    cases n with
    | succ n => exact ih n hcs
    | zero =>
      exact braceFree_append.2 ⟨braceFree_token fun text ht => h.subset (literal_subset ht),
        ih _ hcs⟩

lemma braceFree_moment {format : List Char} (hf : BraceFree format) (m : Moment) :
    BraceFree (moment format m) := by
  rw [moment]
  split
  · exact braceFree_momentChars m
  · exact braceFree_patternFrom m 0 hf

end Format

end Daybook
