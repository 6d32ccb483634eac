import Daybook.Proofs.Number.Places
import Daybook.Proofs.Number.Remainder
import Daybook.Template.Render

/-!
Numbers in their formats. A point, digits and the letter `f` ask for that many places, and what is
written is the decimal nearest to the exact value; the letter `d` asks for the value without its
fraction. Neither loses a digit, and the sign is that of the number.
-/

namespace Daybook.Format

open Text Number

variable {x : Float} {cs ds rest : List Char} {d : Directive} {limit n p : ℕ}

def placesFormat (p : ℕ) : List Char := '.' :: (natDigits p ++ ['f'])

/-! ### Reading a format -/

lemma takeNumber_digits (hds : IsDigits ds) (hrest : ∀ c r, rest = c :: r → digit? c = none)
    (hlimit : (digitValues ds).foldl (fun v d => 10 * v + d) n ≤ limit) :
    takeNumber limit n (ds ++ rest) =
      some ((digitValues ds).foldl (fun v d => 10 * v + d) n, rest) := by
  induction ds generalizing n with
  | nil =>
    cases rest with
    | nil => rfl
    | cons c r =>
      rw [List.nil_append, takeNumber, hrest c r rfl]
      rfl
  | cons c cs ih =>
    have hc := digit?_of_isDigit (hds c List.mem_cons_self)
    have hcs : IsDigits cs := fun d hd => hds d (List.mem_cons_of_mem c hd)
    -- what has been read so far is no more than the whole number
    have hgrows : ∀ (vs : List ℕ) (k : ℕ), k ≤ vs.foldl (fun v d => 10 * v + d) k := by
      intro vs
      induction vs with
      | nil => exact fun k => le_rfl
      | cons v vs ih => exact fun k => (by omega : k ≤ 10 * k + v).trans (ih _)
    have hstep : digitValues (c :: cs) = (c.toNat - 48) :: digitValues cs := rfl
    rw [hstep, List.foldl_cons] at hlimit ⊢
    have hle := (hgrows _ _).trans hlimit
    rw [List.cons_append, takeNumber, hc]
    simp only
    rw [if_neg (Nat.not_lt.2 hle), ih hcs hlimit]

lemma takeNumber_natDigits (hn : n ≤ limit) (hrest : ∀ c r, rest = c :: r → digit? c = none) :
    takeNumber limit 0 (natDigits n ++ rest) = some (n, rest) := by
  have hvalue : (digitValues (natDigits n)).foldl (fun v d => 10 * v + d) 0 = n :=
    ofDigits_natDigits n
  rw [takeNumber_digits (isDigits_natDigits n) hrest (by rw [hvalue]; exact hn), hvalue]

lemma placesFormat_append (p : ℕ) (rest : List Char) :
    placesFormat p ++ rest = '.' :: (natDigits p ++ 'f' :: rest) := by
  rw [placesFormat, List.cons_append, List.append_assoc, List.singleton_append]

lemma takePrecision_places (hp : p ≤ precisionLimit) (used : Bool) (rest : List Char) :
    takePrecision used (placesFormat p ++ rest) = .ok (some p, 'f' :: rest) := by
  have hend : ∀ c r, 'f' :: rest = c :: r → digit? c = none := by
    intro c r h
    cases h
    decide
  rw [placesFormat_append, takePrecision.eq_def]
  split
  · rename_i h
    exact absurd (List.cons.inj h).2 (natDigits_append_ne_cons (by decide) p _ _)
  · rename_i h
    rw [← (List.cons.inj h).2, takeNumber_natDigits hp hend]
  · rename_i h
    exact absurd rfl (h _)

lemma read_of_parts {used : Bool} {f : Flags} {w : ℕ} {q : Option ℕ} {c : Char}
    {afterFlags afterWidth : List Char} (hhead : cs.head? ≠ some '(')
    (hflags : takeFlags {} cs = (f, afterFlags))
    (hwidth : takeWidth used afterFlags = .ok (w, afterWidth))
    (hprecision : takePrecision used afterWidth = .ok (q, c :: rest))
    (hsize : skipSize (c :: rest) = c :: rest) :
    Directive.read used cs = .ok (⟨f, w, q, c⟩, rest) := by
  rw [Directive.read, if_neg hhead, hflags]
  simp only [bind, Except.bind, hwidth, hprecision, hsize]
  rfl

lemma number_of_read (h : Directive.read false cs = .ok (d, rest)) (hhead : cs.head? ≠ some '%') :
    number cs x = (do
      let body ← d.write (cs.length - rest.length) x
      let tail ← writeFrom (fun d k => d.write k x) (cs.length + 1) (cs.length + 1) true rest
      pure (body ++ tail)) := by
  rw [number, write, writeFrom.eq_def]
  simp only
  -- the format does not begin with a doubled percent sign, so a directive is read
  split
  · rename_i h'
    cases h'
  · rename_i h'
    cases h'
    exact absurd rfl hhead
  · rename_i h'
    cases h'
    simp only [h, bind, Except.bind, Bool.false_eq_true, if_false, List.length_cons,
      Nat.sub_right_comm _ rest.length, Nat.add_sub_cancel]
    cases d.write (cs.length - rest.length) x with
    | error f => rfl
    | ok body =>
      cases writeFrom (fun d k => d.write k x) (cs.length + 1) (cs.length + 1) true rest <;> rfl
  · rename_i hpercent h'
    cases h'
    exact absurd rfl hpercent

lemma given?_of_ne_nil (h : cs ≠ []) : given? (some cs) = some cs := by
  cases cs with
  | nil => exact absurd rfl h
  | cons c cs => rfl

lemma ne_nil_of_read (h : Directive.read false cs = .ok (d, rest)) : cs ≠ [] := by
  rintro rfl
  cases h

lemma numberText_of_read {body tail : List Char} (h : Directive.read false cs = .ok (d, rest))
    (hhead : cs.head? ≠ some '%') (hbody : d.write (cs.length - rest.length) x = .ok body)
    (htail : writeFrom (fun d k => d.write k x) (cs.length + 1) (cs.length + 1) true rest =
      .ok tail) :
    numberText (some cs) x = .ok (body ++ tail) := by
  have hnumber : number cs x = .ok (body ++ tail) := by
    rw [number_of_read h hhead, hbody, htail]
    rfl
  rw [numberText, given?_of_ne_nil (ne_nil_of_read h)]
  simp only [hnumber]

/-! ### What is written -/

lemma splitSign_append {f : Flags} (hplus : f.plus = false) (hblank : f.blank = false)
    (cs : List Char) : (splitSign f cs).1 ++ (splitSign f cs).2 = cs := by
  rw [splitSign.eq_def]
  split
  · rfl
  · rw [hplus, hblank]
    rfl

lemma padNumber_plain (cs : List Char) : padNumber {} 0 cs = cs := by
  have hpad : ∀ ds : List Char, padLeft ' ' 0 ds = ds := fun ds => by
    rw [padLeft, Nat.zero_sub]
    rfl
  rw [padNumber]
  simp only [Bool.false_eq_true, if_false, hpad, splitSign_append]

lemma write_places (f : Flags) (w k p : ℕ) (x : Float) : Directive.write ⟨f, w, some p, 'f'⟩ k x =
    .ok (padNumber f w (styled .fixed f.alternate p x)) := rfl

lemma numberText_places (hp : p ≤ precisionLimit) (x : Float) :
    numberText (some (placesFormat p)) x = .ok (styled .fixed false p x) := by
  have hprecision := takePrecision_places hp false []
  rw [List.append_nil] at hprecision
  have hread : Directive.read false (placesFormat p) = .ok (⟨{}, 0, some p, 'f'⟩, []) :=
    read_of_parts (by rw [placesFormat, List.head?_cons]; decide) rfl rfl hprecision rfl
  have h := numberText_of_read hread (by rw [placesFormat, List.head?_cons]; decide)
    (write_places {} 0 (placesFormat p).length p x) rfl
  rwa [padNumber_plain, List.append_nil] at h

lemma numberText_none (x : Float) : numberText none x = numberText (some (placesFormat 1)) x := by
  rw [numberText_places (by decide)]
  rfl

lemma wholeChars_one (n : ℤ) :
    wholeChars 1 n = (if n < 0 then ['-'] else []) ++ natDigits n.natAbs := by
  have hpad : paddedNat 1 n.natAbs = natDigits n.natAbs := by
    have hne := List.length_pos_of_ne_nil (natDigits_ne_nil n.natAbs)
    rw [paddedNat, padLeft, Nat.sub_eq_zero_of_le hne]
    rfl
  rw [wholeChars, hpad]
  split_ifs <;> rfl

lemma showsWhole_wholeChars (n : ℤ) : ShowsWhole n (wholeChars 1 n) :=
  ⟨natDigits n.natAbs, wholeChars_one n, wholeDigits_natDigits _, ofDigits_natDigits _⟩

variable {s : Bool} {m : ℕ} {e : ℤ}

lemma write_whole (hx : parts x = .finite s m e) (f : Flags) (w k : ℕ) :
    Directive.write ⟨f, w, none, 'd'⟩ k x =
      .ok (padNumber f w (wholeChars 1 (towardZero (value x)))) := by
  have hwhole : whole x = .ok (towardZero (value x)) := by
    rw [whole, hx, value_of_parts hx, ← withSign_truncate]
  have hwrite : Directive.write ⟨f, w, none, 'd'⟩ k x =
      (whole x).map fun n => padNumber f w (wholeChars 1 n) := rfl
  rw [hwrite, hwhole, Except.map]

lemma numberText_whole (hx : parts x = .finite s m e) :
    numberText (some ['d']) x = .ok (wholeChars 1 (towardZero (value x))) := by
  have hread : Directive.read false ['d'] = .ok (⟨{}, 0, none, 'd'⟩, []) := by decide
  have h := numberText_of_read hread (by decide) (write_whole hx {} 0 1) rfl
  rwa [padNumber_plain, List.append_nil] at h

lemma styled_fixed (hx : parts x = .finite s m e) (p : ℕ) : styled .fixed false p x =
    (if s then ['-'] else []) ++ withPoint false p (nearestWhole (m * 2 ^ e * 10 ^ p)) := by
  rw [styled, hx, ← roundPlaces_eq]
  cases s <;> rfl

/-- **Number formats are correctly rounded.** A finite number is written with as many places as its
format asks for: its sign, and the decimal nearest to its exact value, of two that are as near the
one with the even last digit. Without a format it has one place. The letter `d` writes all digits of
the number without its fraction. -/
theorem numberText_rounded (hx : isFinite x = true) :
    (∀ p ≤ precisionLimit, ∃ n cs, numberText (some (placesFormat p)) x = .ok cs ∧
      ShowsPlaces (signBit x) p n cs ∧ NearestPlaces (value x) p (withSign (signBit x) n)) ∧
    numberText none x = numberText (some (placesFormat 1)) x ∧
    ∃ cs, numberText (some ['d']) x = .ok cs ∧ ShowsWhole (towardZero (value x)) cs := by
  obtain ⟨s, m, e, hparts⟩ := exists_parts_of_isFinite hx
  refine ⟨fun p hp => ?_, numberText_none x, ?_⟩
  · refine ⟨nearestWhole (m * 2 ^ e * 10 ^ p), _, numberText_places hp x, ?_, ?_⟩
    · rw [styled_fixed hparts, signBit_of_parts hparts]
      exact showsPlaces_withPoint s p _
    · rw [value_of_parts hparts, signBit_of_parts hparts]
      exact nearestPlaces_signedValue (by positivity) s p
  · exact ⟨_, numberText_whole hparts, showsWhole_wholeChars _⟩

/-- A tie between two decimals below zero, and a number whose fraction is all there is. -/
theorem numberText_rounded_eighth : isFinite (-0.125) = true ∧
    (∃ n, ShowsPlaces true 2 n "-0.12".toList ∧
      NearestPlaces (value (-0.125)) 2 (withSign true n)) ∧
    ShowsWhole (towardZero (value (-0.125))) ['0'] := by
  have hfinite : isFinite (-0.125) = true := by decide +kernel
  have hsign : signBit (-0.125) = true := by decide +kernel
  have htext : numberText (some (placesFormat 2)) (-0.125) = .ok "-0.12".toList := by decide +kernel
  have hwhole : numberText (some ['d']) (-0.125) = .ok ['0'] := by decide +kernel
  obtain ⟨hplaces, -, cs, hcs, hshows⟩ := numberText_rounded hfinite
  obtain ⟨n, ds, hds, hds', hnear⟩ := hplaces 2 (by decide)
  rw [hsign] at hds' hnear
  cases hcs.symm.trans hwhole
  cases hds.symm.trans htext
  exact ⟨hfinite, ⟨n, hds', hnear⟩, hshows⟩

end Daybook.Format
