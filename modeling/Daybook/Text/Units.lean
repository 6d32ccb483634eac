import Daybook.Text.Points

/-!
Texts as code units of sixteen bits: a code point past the first plane is a pair of a high and a
low unit, and a half that stands alone is one unit. Reading the units of a text gives the text
back, unless it has two halves side by side that are read as a pair.
-/

namespace Daybook.Text

/-- Whether a unit is the first half of a pair. -/
def isHigh (u : Nat) : Bool := 0xD800 ≤ u && u < 0xDC00

/-- Whether a unit is the second half of a pair. -/
def isLow (u : Nat) : Bool := 0xDC00 ≤ u && u < 0xE000

/-- The units of a code point. -/
def codeUnits (n : Nat) : List Nat :=
  if n < 0x10000 then [n] else [0xD800 + (n - 0x10000) / 0x400, 0xDC00 + (n - 0x10000) % 0x400]

def toUnits (ps : Points) : List Nat := ps.flatMap fun p => codeUnits p.code

/-- Joins the two halves of every pair. Whole code points may stand among the units. -/
def ofUnits : List Nat → Points
  | [] => []
  | u :: v :: rest =>
    if isHigh u && isLow v then
      .char (Char.ofNat (0x10000 + (u - 0xD800) * 0x400 + (v - 0xDC00))) :: ofUnits rest
    else .ofCode u :: ofUnits (v :: rest)
  | [u] => [.ofCode u]

/-- Whether no first half stands right before a second one. -/
def apart : Points → Bool
  | .high _ :: .low _ :: _ => false
  | _ :: ps => apart ps
  | [] => true

theorem apart_ofChars (cs : List Char) : apart (.ofChars cs) = true := by
  induction cs with
  | nil => rfl
  | cons c cs ih => simpa [Points.ofChars, apart] using ih

/-- The units of a code point past the first plane are read as one character. -/
theorem ofUnits_pair {n : Nat} (h : 0x10000 ≤ n) (hlt : n < 0x110000) (us : List Nat) :
    ofUnits (codeUnits n ++ us) = .char (Char.ofNat n) :: ofUnits us := by
  have h₁ : isHigh (0xD800 + (n - 0x10000) / 0x400) = true := by
    simp [isHigh]
    omega
  have h₂ : isLow (0xDC00 + (n - 0x10000) % 0x400) = true := by
    simp [isLow]
    omega
  have e : 0x10000 + (0xD800 + (n - 0x10000) / 0x400 - 0xD800) * 0x400 +
      (0xDC00 + (n - 0x10000) % 0x400 - 0xDC00) = n := by omega
  simp only [codeUnits, Nat.not_lt.2 h, if_false, List.cons_append, List.nil_append, ofUnits, h₁,
    h₂, Bool.and_self, if_true, e]

/-- A unit is read alone if it does not begin a pair. -/
theorem ofUnits_cons {u : Nat} {us : List Nat}
    (h : isHigh u = true → ∀ v vs, us = v :: vs → isLow v = false) :
    ofUnits (u :: us) = .ofCode u :: ofUnits us := by
  cases us with
  | nil => rfl
  | cons v vs =>
    rw [ofUnits, if_neg]
    intro hpair
    rw [Bool.and_eq_true] at hpair
    rw [h hpair.1 v vs rfl] at hpair
    cases hpair.2

theorem exists_high {p : Point} (h : isHigh p.code = true) : ∃ b, p = .high b := by
  simp only [isHigh, Bool.and_eq_true, decide_eq_true_eq] at h
  cases p with
  | high b => exact ⟨b, rfl⟩
  | low b =>
    rw [Point.code] at h
    omega
  | char c =>
    have hc := Point.toNat_valid c
    rw [Point.code] at h
    omega

theorem exists_low {p : Point} (h : isLow p.code = true) : ∃ b, p = .low b := by
  simp only [isLow, Bool.and_eq_true, decide_eq_true_eq] at h
  cases p with
  | low b => exact ⟨b, rfl⟩
  | high b =>
    rw [Point.code] at h
    omega
  | char c =>
    have hc := Point.toNat_valid c
    rw [Point.code] at h
    omega

/-- A code point past the first plane begins with a first half, any other one with itself. -/
theorem isLow_of_codeUnits {n u : Nat} {us vs : List Nat} (h : codeUnits n ++ vs = u :: us)
    (hn : n < 0x110000) (hu : isLow u = true) : isLow n = true := by
  rw [codeUnits] at h
  split at h
  · rw [(List.cons.inj h).1]
    exact hu
  · rw [← (List.cons.inj h).1] at hu
    simp only [isLow, Bool.and_eq_true, decide_eq_true_eq] at hu
    omega

/-- The first unit of a text is a second half only if the text begins with one. -/
theorem exists_low_of_toUnits {ps : Points} {u : Nat} {us : List Nat} (h : toUnits ps = u :: us)
    (hu : isLow u = true) : ∃ b qs, ps = .low b :: qs := by
  cases ps with
  | nil => cases h
  | cons p qs =>
    rw [toUnits, List.flatMap_cons] at h
    obtain ⟨b, rfl⟩ := exists_low (isLow_of_codeUnits h p.code_lt hu)
    exact ⟨b, qs, rfl⟩

/-- Reading joins what writing has split, and nothing else. -/
theorem ofUnits_toUnits {ps : Points} (h : apart ps = true) : ofUnits (toUnits ps) = ps := by
  fun_induction apart ps with
  | case1 => cases h
  | case2 p ps hpair ih =>
    have hunits : toUnits (p :: ps) = codeUnits p.code ++ toUnits ps := List.flatMap_cons
    by_cases hplane : p.code < 0x10000
    · -- a single unit: a half before it or behind it would make a pair
      have halone : isHigh p.code = true → ∀ v vs, toUnits ps = v :: vs → isLow v = false := by
        intro hhigh v vs hvs
        refine Bool.eq_false_iff.2 fun hv => ?_
        obtain ⟨a, rfl⟩ := exists_high hhigh
        obtain ⟨b, qs, rfl⟩ := exists_low_of_toUnits hvs hv
        exact hpair a b qs rfl rfl
      rw [hunits, codeUnits, if_pos hplane, List.singleton_append, ofUnits_cons halone, ih h,
        Point.ofCode_code]
    · cases p with
      | char c =>
        have hc := Point.toNat_valid c
        rw [Point.code] at hunits hplane
        rw [hunits, ofUnits_pair (Nat.not_lt.1 hplane) (by omega), ih h, Char.ofNat_toNat]
      | high b | low b =>
        rw [Point.code] at hplane
        omega
  | case3 => rfl

end Daybook.Text
