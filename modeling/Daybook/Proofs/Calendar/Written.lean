import Daybook.Calendar.Iso
import Daybook.Proofs.Number.Digits

/-!
The plain text of a day. It has four digits for the year and two for the month and the day, and
it is read back as the day.
-/

namespace Daybook

open Text

/-! ### Fields of digits -/

namespace Number

variable {cs : List Char}

lemma digitRun_digit? (hcs : IsDigits cs) : digitRun digit? cs = (digitValues cs, []) := by
  induction cs with
  | nil => rfl
  | cons c cs ih =>
    have hc := digit?_of_isDigit (hcs c List.mem_cons_self)
    have hcs' : IsDigits cs := fun d hd => hcs d (List.mem_cons_of_mem c hd)
    rw [digitRun, hc, ih hcs']
    cases cs with
    | nil => rfl
    | cons d ds =>
      have hd : d ≠ '_' := ne_underscore_of_isDigit (hcs' d List.mem_cons_self)
      simp [hd, digitValues]

end Number

open Number

lemma Iso.field?_paddedNat (w n : ℕ) :
    Iso.field? (paddedNat w n) = some (n : Int) := by
  have hdigits := isDigits_paddedNat w n
  -- neither a blank nor a sign is a digit, so the field is read as it stands
  have hblank : ∀ c ∈ paddedNat w n, Iso.isFieldBlank c = false := by
    intro c hc
    have hb := bounds_of_isDigit (hdigits c hc)
    have hspace : c ≠ ' ' := by
      rintro rfl
      exact absurd hb.1 (by decide)
    simp only [Iso.isFieldBlank, beq_eq_false_iff_ne.2 hspace, Bool.false_or, Bool.and_eq_false_iff,
      decide_eq_false_iff_not]
    omega
  have hkeep : ∀ cs : List Char, (∀ c ∈ cs, Iso.isFieldBlank c = false) →
      cs.dropWhile Iso.isFieldBlank = cs := by
    intro cs hcs
    cases cs with
    | nil => rfl
    | cons c cs => rw [List.dropWhile_cons_of_neg (by rw [hcs c List.mem_cons_self]; decide)]
  have hsign : takeSign (paddedNat w n) = (false, paddedNat w n) := by
    rw [takeSign.eq_def]
    split
    · rename_i h
      exact absurd (hdigits '-' (by rw [h]; exact List.mem_cons_self)) (by decide)
    · rename_i h
      exact absurd (hdigits '+' (by rw [h]; exact List.mem_cons_self)) (by decide)
    · rfl
  have hne : digitValues (paddedNat w n) ≠ [] := by
    simp [digitValues, paddedNat, padLeft, natDigits_ne_nil]
  have hrev : ∀ c ∈ (paddedNat w n).reverse, Iso.isFieldBlank c = false := fun c hc =>
    hblank c (List.mem_reverse.1 hc)
  rw [Iso.field?, hkeep _ hblank, hkeep _ hrev, List.reverse_reverse, hsign]
  simp only [digitRun_digit? hdigits]
  cases hv : digitValues (paddedNat w n) with
  | nil => exact absurd hv hne
  | cons v vs =>
    rw [← hv, ofDigits_paddedNat]
    rfl

namespace Date

variable (d : Date)

lemma length_year : (paddedNat 4 d.year).length = 4 :=
  length_paddedNat (by decide) (Nat.lt_of_le_of_lt d.year_le (by decide))

lemma length_month : (paddedNat 2 d.month).length = 2 :=
  length_paddedNat (by decide) (Nat.lt_of_le_of_lt d.month_le (by decide))

lemma day_le_31 : d.day ≤ 31 := by
  have h : monthLength d.year d.month ≤ 31 := by
    unfold monthLength
    split
    · split <;> omega
    all_goals omega
  exact Nat.le_trans d.day_le h

lemma length_day : (paddedNat 2 d.day).length = 2 :=
  length_paddedNat (by decide) (Nat.lt_of_le_of_lt d.day_le_31 (by decide))

lemma commonDate?_chars :
    Iso.commonDate? d.chars = some (((d.year : Int), (d.month : Int), (d.day : Int)), []) := by
  have hchars : d.chars = paddedNat 4 d.year ++
      ('-' :: (paddedNat 2 d.month ++ ('-' :: paddedNat 2 d.day))) := by
    simp [chars]
  have hday : (paddedNat 2 d.day).take 2 = paddedNat 2 d.day :=
    List.take_of_length_le (Nat.le_of_eq d.length_day)
  have hrest : (paddedNat 2 d.day).drop 2 = [] :=
    List.drop_eq_nil_of_le (Nat.le_of_eq d.length_day)
  simp [hchars, Iso.commonDate?, List.take_left' d.length_year, List.drop_left' d.length_year,
    List.take_left' d.length_month, List.drop_left' d.length_month, d.length_year, d.length_month,
    d.length_day, hday, hrest, Iso.field?_paddedNat]

lemma valid?_self : Iso.valid? d.year d.month d.day = some d := by
  have h : 1 ≤ d.year ∧ d.year ≤ 9999 ∧ 1 ≤ d.month ∧ d.month ≤ 12 ∧ 1 ≤ d.day ∧
      d.day ≤ monthLength d.year d.month :=
    ⟨d.year_pos, d.year_le, d.month_pos, d.month_le, d.day_pos, d.day_le⟩
  simp [Iso.valid?, of?, h]

lemma read_of_commonDate? {cs : List Char} (hascii : ∀ c ∈ cs, c.toNat < 128)
    (h : Iso.commonDate? cs = some (((d.year : Int), (d.month : Int), (d.day : Int)), [])) :
    Iso.read cs = .ok d := by
  have hany : (cs.any fun c => decide (128 ≤ c.toNat)) = false :=
    List.any_eq_false.2 fun c hc => by simpa using hascii c hc
  rw [Iso.read, hany, h]
  simp only [valid?_self]
  rfl

lemma isDigit_of_mem_chars {c : Char} (hc : c ∈ d.chars) : c.isDigit = true ∨ c = '-' := by
  simp only [chars, List.mem_append, List.mem_cons] at hc
  rcases hc with (hc | hc | hc) | hc | hc
  · exact .inl (isDigits_paddedNat _ _ c hc)
  · exact .inr hc
  · exact .inl (isDigits_paddedNat _ _ c hc)
  · exact .inr hc
  · exact .inl (isDigits_paddedNat _ _ c hc)

/-- **The text of a day is read back as the day.** -/
theorem read_chars : Iso.read d.chars = .ok d := by
  refine d.read_of_commonDate? (fun c hc => ?_) d.commonDate?_chars
  rcases d.isDigit_of_mem_chars hc with hc | rfl
  · have := bounds_of_isDigit hc
    omega
  · decide

end Date

end Daybook
