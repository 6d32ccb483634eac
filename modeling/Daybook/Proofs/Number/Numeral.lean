import Daybook.Number.Shortest
import Daybook.Proofs.Number.Digits

/-!
The text of a double. A finite double is written as digits with a fraction or an exponent behind
them, or with both, and no zero stands in front of other digits.
-/

namespace Daybook.Number

open Text

/-- A written decimal in parts: the digits before the point, those behind it, and an exponent
with its sign. -/
structure Numeral where
  whole : List Char
  fraction : List Char := []
  exponent : Option (Bool × List Char) := none

namespace Numeral

def fractionText : List Char → List Char
  | [] => []
  | c :: cs => '.' :: c :: cs

def exponentText : Option (Bool × List Char) → List Char
  | none => []
  | some (negative, ds) => 'e' :: (if negative then '-' else '+') :: ds

def chars (n : Numeral) : List Char :=
  n.whole ++ (fractionText n.fraction ++ exponentText n.exponent)

/-- The parts are digits, and there are some before the point. -/
structure Formed (n : Numeral) : Prop where
  whole : IsDigits n.whole
  whole_ne : n.whole ≠ []
  fraction : IsDigits n.fraction
  exponent : ∀ s ds, n.exponent = some (s, ds) → IsDigits ds ∧ ds ≠ []

/-- It is as a double is written, and not as a whole number. -/
structure Valid (n : Numeral) : Prop extends n.Formed where
  /-- No zero stands in front of other digits. -/
  unpadded : n.whole = ['0'] ∨ n.whole.head? ≠ some '0'
  decimal : n.fraction ≠ [] ∨ n.exponent ≠ none

lemma fractionText_of_ne {cs : List Char} (h : cs ≠ []) : fractionText cs = '.' :: cs := by
  cases cs with
  | nil => exact absurd rfl h
  | cons => rfl

end Numeral

/-! ### Shortest decimals

The zero comes of the search only if no grid has a point, and then with an exponent that is out
of reach for the positional layout. -/

lemma digits_of_onGrid? {r : Reach} {exp t : Int} {d : Decimal} (h : onGrid? r exp t = some d) :
    d.digits ≠ 0 := by
  simp only [onGrid?] at h
  split at h
  · rename_i hbelow _
    have hne := (Bool.and_eq_true _ _ ▸ hbelow).1
    split at h <;> cases h
    · exact bne_iff_ne.1 hne
    · exact Nat.succ_ne_zero _
  · rename_i hbelow _
    cases h
    exact bne_iff_ne.1 (Bool.and_eq_true _ _ ▸ hbelow).1
  · cases h
    exact Nat.succ_ne_zero _
  · cases h

lemma exp_searchFrom {r : Reach} {exp lead : Int} {k n : ℕ}
    (h : (searchFrom r exp lead k n).digits = 0) : (searchFrom r exp lead k n).exp = k + n := by
  induction k generalizing n with
  | zero => simp [searchFrom]
  | succ k ih =>
    rw [searchFrom] at h ⊢
    split at h
    · rename_i d hd
      exact absurd h (digits_of_onGrid? hd)
    · rw [ih h]
      omega

lemma exp_shortest {m : ℕ} {e : Int} (h : (shortest m e).digits = 0) : (shortest m e).exp = 18 :=
  exp_searchFrom h

lemma exp_stripFrom {d : Decimal} (hd : d.digits = 0 → 16 ≤ d.exp) (k : ℕ)
    (h : (d.stripFrom k).digits = 0) : 16 ≤ (d.stripFrom k).exp := by
  induction k generalizing d with
  | zero => exact hd h
  | succ k ih =>
    rw [Decimal.stripFrom] at h ⊢
    split at h
    · rename_i hzero
      rw [if_pos hzero]
      exact ih (by simp only; omega) h
    · rename_i hzero
      rw [if_neg hzero]
      exact hd h

/-! ### Layouts -/

lemma exists_positional {ds : List Char} (hds : IsDigits ds) (hne : ds ≠ [])
    (hhead : ds.head? ≠ some '0') (whole : Int) :
    ∃ n : Numeral, n.Valid ∧ positional plain.wholeEnd ds whole = n.chars := by
  rw [positional]
  split
  · -- zeros between the point and the digits
    have hfraction : List.replicate (-whole).toNat '0' ++ ds ≠ [] := by simp [hne]
    refine ⟨{ whole := ['0'], fraction := List.replicate (-whole).toNat '0' ++ ds }, ?_, ?_⟩
    · exact ⟨⟨isDigits_replicate 1, nofun, (isDigits_replicate _).append hds, nofun⟩, .inl rfl,
        .inl hfraction⟩
    · rw [Numeral.chars, Numeral.fractionText_of_ne hfraction]
      simp [Numeral.exponentText]
  · simp only
    split
    · -- zeros behind the digits
      refine ⟨{ whole := padRight '0' whole.toNat ds, fraction := ['0'] }, ?_, rfl⟩
      have hpadded : (padRight '0' whole.toNat ds).head? ≠ some '0' := by
        obtain ⟨c, cs, rfl⟩ := List.exists_cons_of_ne_nil hne
        exact hhead
      exact ⟨⟨hds.append (isDigits_replicate _), by simp [padRight, hne], isDigits_replicate 1,
        nofun⟩, .inr hpadded, .inl nofun⟩
    · -- the point among the digits
      rename_i hwhole hlen
      have htake : ds.take whole.toNat ≠ [] := by
        rw [ne_eq, List.take_eq_nil_iff, not_or]
        exact ⟨by omega, hne⟩
      have hdrop : ds.drop whole.toNat ≠ [] := by
        rw [ne_eq, List.drop_eq_nil_iff]
        exact hlen
      refine ⟨{ whole := ds.take whole.toNat, fraction := ds.drop whole.toNat }, ?_, ?_⟩
      · have hfirst : (ds.take whole.toNat).head? ≠ some '0' := by
          rwa [List.head?_take, if_neg (by omega)]
        exact ⟨⟨isDigits_take hds _, htake, isDigits_drop hds _, nofun⟩, .inr hfirst, .inl hdrop⟩
      · rw [Numeral.chars, Numeral.fractionText_of_ne hdrop]
        simp [Numeral.exponentText]

lemma exists_scientific {c : Char} {cs : List Char} (hds : IsDigits (c :: cs)) (width : ℕ)
    (e : Int) : ∃ n : Numeral, n.Valid ∧
      (match c :: cs with
        | [] => []
        | [c] => [c]
        | c :: rest => c :: '.' :: rest) ++ exponentText width e = n.chars := by
  have hc : IsDigits [c] := by
    intro d hd
    rw [List.mem_singleton.1 hd]
    exact hds c List.mem_cons_self
  have hexp : IsDigits (paddedNat width e.natAbs) :=
    (isDigits_replicate _).append (isDigits_natDigits _)
  have hexpne : paddedNat width e.natAbs ≠ [] := by
    simp [paddedNat, padLeft, natDigits_ne_nil]
  refine ⟨{ whole := [c], fraction := cs,
            exponent := some (decide (e < 0), paddedNat width e.natAbs) }, ?_, ?_⟩
  · have hfirst : [c] = ['0'] ∨ [c].head? ≠ some '0' := by
      by_cases hzero : c = '0'
      · exact .inl (by rw [hzero])
      · exact .inr (by simpa using hzero)
    refine ⟨⟨hc, List.cons_ne_nil c [], fun d hd => hds d (List.mem_cons_of_mem c hd), ?_⟩, hfirst,
      .inr (Option.some_ne_none _)⟩
    rintro s ds h
    cases h
    exact ⟨hexp, hexpne⟩
  · -- a single digit stands without a point
    cases cs with
    | nil => simp [Numeral.chars, Numeral.fractionText, Numeral.exponentText, exponentText]
    | cons d cs => simp [Numeral.chars, Numeral.fractionText, Numeral.exponentText, exponentText]

lemma exists_write {d : Decimal} (hd : d.digits = 0 → 16 ≤ d.exp) :
    ∃ n : Numeral, n.Valid ∧ plain.write d = n.chars := by
  have hds := isDigits_natDigits (d.stripFrom 20).digits
  have hne := natDigits_ne_nil (d.stripFrom 20).digits
  rw [Layout.write]
  simp only
  split
  · rename_i hlead
    have hpos : 0 < (d.stripFrom 20).digits := by
      refine Nat.pos_of_ne_zero fun hzero => ?_
      have hexp := exp_stripFrom hd 20 hzero
      have hone : (natDigits (d.stripFrom 20).digits).length = 1 := by
        rw [hzero]
        rfl
      rw [hone] at hlead
      have hlast : plain.positionalTo = 16 := rfl
      omega
    obtain ⟨c, cs, hcs, hc⟩ := head_natDigits hpos
    have hhead : (natDigits (d.stripFrom 20).digits).head? ≠ some '0' := by
      rw [hcs]
      simpa using hc
    exact exists_positional hds hne hhead _
  · cases h : natDigits (d.stripFrom 20).digits with
    | nil => exact absurd h hne
    | cons c cs =>
      rw [h] at hds
      exact exists_scientific hds _ _

/-- **A finite double is written as a numeral**, behind a minus sign if it has a sign. -/
theorem exists_signed {x : Float} {s : Bool} {m : ℕ} {e : Int}
    (hx : parts x = .finite s m e) :
    ∃ n : Numeral, n.Valid ∧ Number.chars x = (if s then '-' :: n.chars else n.chars) := by
  have hbody : ∃ n : Numeral, n.Valid ∧
      (if m = 0 then '0' :: plain.wholeEnd else plain.write (shortest m e)) = n.chars := by
    split
    · refine ⟨{ whole := ['0'], fraction := ['0'] }, ?_, rfl⟩
      exact ⟨⟨isDigits_replicate 1, nofun, isDigits_replicate 1, nofun⟩, .inl rfl, .inl nofun⟩
    · exact exists_write fun hzero => by rw [exp_shortest hzero]; decide
  obtain ⟨n, hn, hchars⟩ := hbody
  refine ⟨n, hn, ?_⟩
  rw [Number.chars, hx]
  simp only [hchars]

lemma exists_chars {x : Float} {m : ℕ} {e : Int} (hx : parts x = .finite false m e) :
    ∃ n : Numeral, n.Valid ∧ Number.chars x = n.chars :=
  exists_signed hx

end Daybook.Number
