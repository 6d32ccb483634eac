import Daybook.Proofs.Text.Classes

/-!
Classes of characters that keep words apart: blanks are in no word, and digits begin no name.
-/

namespace Daybook.Text

variable {b c d : Char}

/-! ### Blanks -/

def blankCodes : List ℕ := [9, 10, 11, 12, 13, 28, 29, 30, 31, 32, 0x85, 0xa0, 0x1680, 0x2000,
  0x2001, 0x2002, 0x2003, 0x2004, 0x2005, 0x2006, 0x2007, 0x2008, 0x2009, 0x200a, 0x2028, 0x2029,
  0x202f, 0x205f, 0x3000]

lemma mem_blankCodes (h : isBlank b = true) : b.toNat ∈ blankCodes := by
  simp only [isBlank, Bool.or_eq_true, Bool.and_eq_true, decide_eq_true_eq, beq_iff_eq] at h
  simp only [blankCodes, List.mem_cons, List.not_mem_nil, or_false]
  omega

lemma ne_of_isBlank (hb : isBlank b = true) (hd : isBlank d = false) : b ≠ d := by
  rintro rfl
  rw [hb] at hd
  cases hd

/-- Characters of these classes belong to no name. -/
def CharClass.separates : CharClass → Bool
  | .late | .symbol | .hidden => true
  | _ => false

lemma isNameChar_of_isBlank (h : isBlank b = true) : isNameChar b = false := by
  have hcommon : ∀ n ∈ blankCodes, n < 128 → (asciiClass n).separates = true := by decide
  have htable : inRuns 1 CharClass.separates classRuns.toList blankCodes = true := by
    decide +kernel
  have hclass : (charClass b).separates = true := by
    rw [charClass]
    split
    · rename_i hlt
      exact hcommon _ (mem_blankCodes h) hlt
    · have hrun := tableClass_of_inRuns htable (mem_blankCodes h) (k := 0) Nat.one_pos
      rwa [Nat.add_zero] at hrun
  have hne : b ≠ '_' := ne_of_isBlank h (by decide)
  rw [isNameChar, Bool.or_eq_false_iff, beq_eq_false_iff_ne]
  refine ⟨hne, ?_⟩
  cases hb : charClass b <;> simp [hb, CharClass.separates] at hclass ⊢

lemma decimal?_of_isBlank (h : isBlank b = true) : decimal? b = none := by
  have hnone : ∀ n ∈ blankCodes, (n < 128 → ¬ (48 ≤ n ∧ n ≤ 57)) ∧
      ∀ z ∈ decimalZeros, ¬ (z ≤ n ∧ n < z + 10) := by decide +kernel
  obtain ⟨hcommon, hzeros⟩ := hnone _ (mem_blankCodes h)
  simp only [decimal?]
  split
  · rename_i hlt
    rw [if_neg (hcommon hlt)]
  · rw [Option.map_eq_none_iff, List.find?_eq_none]
    intro z hz
    rw [decide_eq_true_eq]
    exact hzeros z hz

/-! ### Digits and identifiers -/

lemma charClass_of_decimal? {n : ℕ} (h : decimal? c = some n) : charClass c = .digit := by
  -- all the decimals of the table lie in runs of digits
  have htable : inRuns 10 (· == .digit) classRuns.toList decimalZeros = true := by decide +kernel
  simp only [decimal?] at h
  rw [charClass]
  split at h
  · rename_i hlt
    rw [if_pos hlt, asciiClass]
    split at h
    · rename_i hd
      rw [if_pos hd]
    · cases h
  · rename_i hlt
    rw [if_neg hlt]
    obtain ⟨z, hz, -⟩ := Option.map_eq_some_iff.1 h
    have hmem := List.mem_of_find?_eq_some hz
    have hle := List.find?_some hz
    rw [decide_eq_true_eq] at hle
    have hcode : z + (c.toNat - z) = c.toNat := by omega
    have hclass := tableClass_of_inRuns htable hmem (k := c.toNat - z) (by omega)
    rw [hcode] at hclass
    exact eq_of_beq hclass

lemma decimal?_of_isIdentStart (h : isIdentStart c = true) : decimal? c = none := by
  rcases hd : decimal? c with _ | n
  · rfl
  · have hclass := charClass_of_decimal? hd
    rw [isIdentStart, hclass, Bool.or_false, beq_iff_eq] at h
    subst h
    cases hd

lemma decimal?_of_digit? {n : ℕ} (h : digit? c = some n) : decimal? c = some n := by
  rw [digit?] at h
  split at h
  · rename_i hc
    obtain ⟨h0, h9⟩ : 48 ≤ c.toNat ∧ c.toNat ≤ 57 := hc
    cases h
    rw [decimal?, if_pos (show c.toNat < 128 by omega), if_pos ⟨h0, h9⟩]
  · cases h

lemma digit?_of_decimal? (h : decimal? c = none) : digit? c = none := by
  rcases hd : digit? c with _ | n
  · rfl
  · rw [decimal?_of_digit? hd] at h
    cases h

end Daybook.Text
