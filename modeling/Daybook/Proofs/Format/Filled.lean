import Daybook.Proofs.Format.Number

/-!
Widths, and what stands behind a directive. A width only adds characters to the text of a number:
blanks before it, blanks behind it, or zeros behind its sign. Literal text is copied whatever it
begins with, and a second directive finds no number left.
-/

namespace Daybook.Format

open Text Number

variable {x : Float} {cs rest : List Char} {n total w : ℕ} {used : Bool}
variable {item : Directive → ℕ → Except Fault (List Char)}

/-! ### Filling up -/

/-- How a number is filled up to a width. -/
inductive Filling
  | blanksBefore
  | blanksBehind
  | zeros
  deriving DecidableEq, Repr

namespace Filling

/-- The flag that asks for it. -/
def chars : Filling → List Char
  | blanksBefore => []
  | blanksBehind => ['-']
  | zeros => ['0']

def flags : Filling → Flags
  | blanksBefore => {}
  | blanksBehind => { left := true }
  | zeros => { zero := true }

/-- The text of a number filled up to a width; zeros stand behind the sign. -/
def fill : Filling → ℕ → List Char → List Char
  | blanksBefore, w, u => List.replicate (w - u.length) ' ' ++ u
  | blanksBehind, w, u => u ++ List.replicate (w - u.length) ' '
  | zeros, w, '-' :: ds => '-' :: (List.replicate (w - (ds.length + 1)) '0' ++ ds)
  | zeros, w, u => List.replicate (w - u.length) '0' ++ u

lemma padNumber_eq_fill (g : Filling) (w : ℕ) (u : List Char) :
    padNumber g.flags w u = g.fill w u := by
  have hsplit := splitSign_append (f := g.flags) (by cases g <;> rfl) (by cases g <;> rfl) u
  fun_cases fill g w u with
  | case1 =>
    rw [padNumber]
    simp only [hsplit]
    rfl
  | case2 =>
    rw [padNumber]
    simp only [hsplit]
    rfl
  | case3 w ds =>
    rw [Nat.add_comm, Nat.sub_add_eq]
    rfl
  | case4 w u hsign =>
    rw [padNumber, splitSign]
    · rfl
    · exact fun r h => hsign r h

lemma length_fill (g : Filling) (w : ℕ) (u : List Char) :
    (g.fill w u).length = max w u.length := by
  fun_cases fill g w u
  all_goals simp only [List.length_append, List.length_cons, List.length_replicate]
  all_goals omega

lemma sublist_fill (g : Filling) (w : ℕ) (u : List Char) : u.Sublist (g.fill w u) := by
  fun_cases fill g w u with
  | case1 => exact List.sublist_append_right _ u
  | case2 => exact List.sublist_append_left u _
  | case3 => exact (List.sublist_append_right _ _).cons_cons '-'
  | case4 => exact List.sublist_append_right _ u

lemma takeFlags_chars (g : Filling) (cs : List Char) :
    takeFlags {} (g.chars ++ cs) = takeFlags g.flags cs := by
  cases g <;> rfl

end Filling

/-! ### Conversions -/

/-- The conversions of a number: without its fraction, and with so many places. -/
inductive Conversion
  | whole
  | places (p : ℕ) (h : p ≤ precisionLimit)

namespace Conversion

def chars : Conversion → List Char
  | whole => ['d']
  | places p _ => placesFormat p

def directive (c : Conversion) (f : Flags) (w : ℕ) : Directive :=
  match c with
  | whole => ⟨f, w, none, 'd'⟩
  | places p _ => ⟨f, w, some p, 'f'⟩

lemma digit?_of_chars_append (c : Conversion) :
    ∀ d r, c.chars ++ rest = d :: r → digit? d = none := by
  cases c with
  | whole =>
    intro d r h
    cases h
    rfl
  | places p =>
    intro d r h
    rw [chars, placesFormat_append] at h
    cases h
    rfl

lemma takePrecision_chars (c : Conversion) (used : Bool) (f : Flags) (w : ℕ) (rest : List Char) :
    takePrecision used (c.chars ++ rest) =
      .ok ((c.directive f w).precision, (c.directive f w).conversion :: rest) := by
  cases c with
  | whole => rfl
  | places p hp => exact takePrecision_places hp used rest

lemma skipSize_conversion (c : Conversion) (f : Flags) (w : ℕ) (rest : List Char) :
    skipSize ((c.directive f w).conversion :: rest) = (c.directive f w).conversion :: rest := by
  cases c <;> rfl

lemma eq_directive (c : Conversion) (f : Flags) (w : ℕ) :
    (⟨f, w, (c.directive f w).precision, (c.directive f w).conversion⟩ : Directive) =
      c.directive f w := by
  cases c <;> rfl

lemma exists_write (c : Conversion) (hx : isFinite x = true) :
    ∃ u, numberText (some c.chars) x = .ok u ∧
      ∀ (g : Filling) w k, (c.directive g.flags w).write k x = .ok (g.fill w u) := by
  obtain ⟨s, m, e, hparts⟩ := exists_parts_of_isFinite hx
  have halternate : ∀ g : Filling, g.flags.alternate = false := fun g => by cases g <;> rfl
  cases c with
  | whole =>
    refine ⟨_, numberText_whole hparts, fun g w k => ?_⟩
    rw [directive, write_whole hparts, Filling.padNumber_eq_fill]
  | places p hp =>
    refine ⟨_, numberText_places hp x, fun g w k => ?_⟩
    rw [directive, write_places, halternate, Filling.padNumber_eq_fill]

end Conversion

/-! ### Reading a width -/

lemma takeFlags_natDigits (hw : 1 ≤ w) (f : Flags) (rest : List Char) :
    takeFlags f (natDigits w ++ rest) = (f, natDigits w ++ rest) := by
  rw [takeFlags]
  · exact natDigits_append_ne_cons (by decide) w rest
  · exact natDigits_append_ne_cons (by decide) w rest
  · exact natDigits_append_ne_cons (by decide) w rest
  · exact natDigits_append_ne_cons (by decide) w rest
  · obtain ⟨c, cs, hcs, hzero⟩ := head_natDigits hw
    intro r h
    rw [hcs, List.cons_append] at h
    exact hzero (List.cons.inj h).1

lemma takeWidth_natDigits (hlimit : w ≤ widthLimit)
    (hrest : ∀ c r, rest = c :: r → digit? c = none) :
    takeWidth used (natDigits w ++ rest) = .ok (w, rest) := by
  rw [takeWidth, takeNumber_natDigits hlimit hrest]
  exact natDigits_append_ne_cons (by decide) w rest

/-- A format with a flag, a width and a conversion, and what follows it. -/
def widthFormat (g : Filling) (w : ℕ) (c : Conversion) (rest : List Char) : List Char :=
  g.chars ++ (natDigits w ++ (c.chars ++ rest))

lemma head?_widthFormat {d : Char} (hdigit : d.isDigit = false) (hminus : '-' ≠ d) (g : Filling)
    (w : ℕ) (c : Conversion) (rest : List Char) :
    (widthFormat g w c rest).head? ≠ some d := by
  intro h
  cases g with
  | blanksBefore =>
    obtain ⟨r, hr⟩ := List.head?_eq_some_iff.1 h
    exact natDigits_append_ne_cons hdigit w _ r hr
  | blanksBehind => exact hminus (Option.some.inj h)
  | zeros =>
    cases h
    cases hdigit

lemma read_widthFormat (hw : 1 ≤ w) (hlimit : w ≤ widthLimit) (g : Filling) (c : Conversion)
    (rest : List Char) : Directive.read used (widthFormat g w c rest) =
      .ok (c.directive g.flags w, rest) := by
  have hflags : takeFlags {} (widthFormat g w c rest) =
      (g.flags, natDigits w ++ (c.chars ++ rest)) := by
    rw [widthFormat, g.takeFlags_chars, takeFlags_natDigits hw]
  rw [read_of_parts (head?_widthFormat (by decide) (by decide) g w c rest) hflags
    (takeWidth_natDigits hlimit c.digit?_of_chars_append)
    (c.takePrecision_chars used g.flags w rest) (c.skipSize_conversion g.flags w rest),
    c.eq_directive]

/-! ### What follows the directive -/

lemma writeFrom_cons {c : Char} (hc : c ≠ '%') : writeFrom item total (n + 1) true (c :: cs) =
    (c :: ·) <$> writeFrom item total n true cs := by
  rw [writeFrom]
  · rintro r rfl
    exact absurd rfl hc
  · rintro rfl
    exact absurd rfl hc

lemma writeFrom_literal (hs : '%' ∉ rest) (hn : rest.length < n) :
    writeFrom item total n true rest = .ok rest := by
  induction rest generalizing n with
  | nil =>
    cases n with
    | zero => cases hn
    | succ n => rfl
  | cons c cs ih =>
    obtain ⟨hc, hcs⟩ := not_or.1 (mt List.mem_cons.2 hs)
    cases n with
    | zero => cases hn
    | succ n =>
      rw [writeFrom_cons (Ne.symm hc), ih hcs (Nat.lt_of_succ_lt_succ hn)]
      rfl

/-- A percent sign that is not doubled begins a further directive. -/
inductive AsksAgain : List Char → Prop
  | here {cs : List Char} (h : cs.head? ≠ some '%') : AsksAgain ('%' :: cs)
  | doubled {cs : List Char} (h : AsksAgain cs) : AsksAgain ('%' :: '%' :: cs)
  | further {c : Char} {cs : List Char} (hc : c ≠ '%') (h : AsksAgain cs) : AsksAgain (c :: cs)

lemma exists_error_of_asksAgain (h : AsksAgain rest) (hn : rest.length < n) :
    ∃ e, writeFrom item total n true rest = .error e := by
  -- each step drops what the format copies, and the length bounds the fuel
  induction h generalizing n with
  | @here cs h =>
    cases n with
    | zero => cases hn
    | succ n =>
      rw [writeFrom]
      · cases Directive.read true cs with
        | error e => exact ⟨e, rfl⟩
        | ok r => exact ⟨.secondConversion, rfl⟩
      · rintro r rfl
        exact absurd rfl h
  | @doubled cs h ih =>
    cases n with
    | zero => cases hn
    | succ n =>
      obtain ⟨e, he⟩ := ih (n := n) (by simp only [List.length_cons] at hn; omega)
      rw [writeFrom, he]
      exact ⟨e, rfl⟩
  | @further c cs hc h ih =>
    cases n with
    | zero => cases hn
    | succ n =>
      obtain ⟨e, he⟩ := ih (Nat.lt_of_succ_lt_succ hn)
      rw [writeFrom_cons hc, he]
      exact ⟨e, rfl⟩

lemma exists_ok_of_not_asksAgain (h : ¬ AsksAgain rest) (hn : rest.length < n) :
    ∃ tail, writeFrom item total n true rest = .ok tail := by
  induction n generalizing rest with
  | zero => cases hn
  | succ n ih =>
    rcases rest with - | ⟨c, cs⟩
    · exact ⟨[], rfl⟩
    have hcs := Nat.lt_of_succ_lt_succ hn
    by_cases hc : c = '%'
    · subst hc
      by_cases hhead : cs.head? = some '%'
      · obtain ⟨r, rfl⟩ := List.head?_eq_some_iff.1 hhead
        obtain ⟨tail, htail⟩ := ih (mt .doubled h) (Nat.lt_of_succ_lt hcs)
        rw [writeFrom, htail]
        exact ⟨_, rfl⟩
      · exact absurd (.here hhead) h
    · obtain ⟨tail, htail⟩ := ih (mt (.further hc) h) hcs
      rw [writeFrom_cons hc, htail]
      exact ⟨_, rfl⟩

lemma numberText_of_rest {d : Directive} {e : Fault} (h : Directive.read false cs = .ok (d, rest))
    (hhead : cs.head? ≠ some '%')
    (hrest : writeFrom (fun d k => d.write k x) (cs.length + 1) (cs.length + 1) true rest =
      .error e) :
    ∃ f, numberText (some cs) x = .error f ∧ f.kind = .format := by
  have hnumber : ∃ e, number cs x = .error e := by
    rw [number_of_read h hhead, hrest]
    cases d.write (cs.length - rest.length) x with
    | error e => exact ⟨e, rfl⟩
    | ok body => exact ⟨e, rfl⟩
  obtain ⟨e', he'⟩ := hnumber
  rw [numberText, given?_of_ne_nil (ne_nil_of_read h)]
  simp only [he']
  exact ⟨_, rfl, rfl⟩

/-- **A width only adds characters.** With a width, a finite number has the text that it has
without one, filled up to the width with blanks before it, with blanks behind it if there is a minus
sign before the width, or with zeros behind its sign if there is a zero. No character of the text
is lost. Text behind the conversion is copied, and the format is at fault exactly if there is a
further directive in it. -/
theorem numberText_filled (hx : isFinite x = true) (hw : 1 ≤ w) (hlimit : w ≤ widthLimit)
    (c : Conversion) : ∃ u, numberText (some c.chars) x = .ok u ∧ ∀ g : Filling,
      (∀ s, '%' ∉ s → numberText (some (widthFormat g w c s)) x = .ok (g.fill w u ++ s)) ∧
      (g.fill w u).length = max w u.length ∧ u.Sublist (g.fill w u) ∧
      ∀ s, AsksAgain s ↔
        ∃ f, numberText (some (widthFormat g w c s)) x = .error f ∧ f.kind = .format := by
  obtain ⟨u, hu, hwrite⟩ := c.exists_write hx
  refine ⟨u, hu, fun g => ⟨fun s hs => ?_, g.length_fill w u, g.sublist_fill w u, fun s => ?_⟩⟩
  all_goals
    have hhead := head?_widthFormat (d := '%') (by decide) (by decide) g w c s
    have hlength : s.length < (widthFormat g w c s).length + 1 := by
      simp only [widthFormat, List.length_append]
      omega
    have hread : Directive.read false (widthFormat g w c s) = .ok (c.directive g.flags w, s) :=
      read_widthFormat hw hlimit g c s
  · exact numberText_of_read hread hhead (hwrite g w _) (writeFrom_literal hs hlength)
  · constructor
    · intro hs
      obtain ⟨e, he⟩ := exists_error_of_asksAgain hs hlength
      exact numberText_of_rest hread hhead he
    · rintro ⟨f, hf, -⟩
      -- without a second directive the rest is copied, and there is no error
      by_contra hs
      obtain ⟨tail, htail⟩ := exists_ok_of_not_asksAgain hs hlength
      rw [numberText_of_read hread hhead (hwrite g w _) htail] at hf
      cases hf

/-- Zeros behind a minus sign with digits behind the conversion, and a second directive behind a
percent sign that is doubled. -/
theorem numberText_filled_eighth : isFinite (-0.125) = true ∧ 1 ≤ 8 ∧ 8 ≤ widthLimit ∧
    numberText (some "08.2f5 kg".toList) (-0.125) = .ok "-0000.125 kg".toList ∧
    ∃ f, numberText (some "-8.2f%% %d".toList) (-0.125) = .error f ∧ f.kind = .format := by
  have hfinite : isFinite (-0.125) = true := by decide +kernel
  have hlimit : 8 ≤ widthLimit := by decide +kernel
  have hplaces : 2 ≤ precisionLimit := by decide +kernel
  have htext : numberText (some (placesFormat 2)) (-0.125) = .ok "-0.12".toList := by decide +kernel
  have hzeros : widthFormat .zeros 8 (.places 2 hplaces) "5 kg".toList = "08.2f5 kg".toList :=
    rfl
  have hblanks : widthFormat .blanksBehind 8 (.places 2 hplaces) "%% %d".toList =
      "-8.2f%% %d".toList :=
    rfl
  have hasks : AsksAgain "%% %d".toList := .doubled (.further (by decide) (.here (by decide)))
  obtain ⟨u, hu, hfill⟩ := numberText_filled hfinite (by decide : 1 ≤ 8) hlimit
    (.places 2 hplaces)
  cases hu.symm.trans htext
  obtain ⟨hcopied, -⟩ := hfill .zeros
  obtain ⟨-, -, -, hfault⟩ := hfill .blanksBehind
  refine ⟨hfinite, by decide, hlimit, ?_, ?_⟩
  · rw [← hzeros]
    exact hcopied _ (by decide)
  · rw [← hblanks]
    exact (hfault _).1 hasks

end Daybook.Format
