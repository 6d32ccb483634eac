import Mathlib.Tactic.Common
import Daybook.Json.Read
import Daybook.Json.Write

/-!
Strings of JSON. A unit is written as itself, by a letter behind a backslash or by four digits in
base sixteen, and each of these is read back as the unit; so a string is read back as it was.
-/

namespace Daybook

namespace Text

lemma codeUnits_lt {n u : ℕ} (hn : n < 0x110000) (hu : u ∈ codeUnits n) : u < 0x10000 := by
  rw [codeUnits] at hu
  split at hu
  · rw [List.mem_singleton.1 hu]
    assumption
  · simp only [List.mem_cons, List.not_mem_nil, or_false] at hu
    omega

lemma toUnits_lt {ps : Points} {u : ℕ} (hu : u ∈ toUnits ps) : u < 0x10000 := by
  obtain ⟨p, -, hu⟩ := List.mem_flatMap.1 hu
  exact codeUnits_lt p.code_lt hu

/-! ### Digits in base sixteen -/

lemma hexDigit?_digitChar {d : ℕ} (hd : d < 16) : hexDigit? (Nat.digitChar d) = some d := by
  have h : ∀ d < 16, hexDigit? (Nat.digitChar d) = some d := by decide
  exact h d hd

lemma hexDigits_succ {w : ℕ} (hw : 0 < w) (n : ℕ) :
    hexDigits (w + 1) n = hexDigits w (n / 16) ++ [Nat.digitChar (n % 16)] := by
  rw [hexDigits, hexDigits, padLeft, padLeft, Nat.toDigits_eq_if (by decide)]
  split
  · rename_i hn
    obtain ⟨v, rfl⟩ : ∃ v, w = v + 1 := ⟨w - 1, by omega⟩
    have hzero : Nat.toDigits 16 (n / 16) = ['0'] := by
      rw [Nat.div_eq_of_lt hn]
      rfl
    rw [hzero, Nat.mod_eq_of_lt hn]
    simp [List.replicate_succ']
  · rw [List.length_append, List.length_singleton, Nat.add_sub_add_right, List.append_assoc]

lemma hexDigits_four {u : ℕ} (hu : u < 0x10000) : hexDigits 4 u =
    [Nat.digitChar (u / 16 / 16 / 16), Nat.digitChar (u / 16 / 16 % 16),
      Nat.digitChar (u / 16 % 16), Nat.digitChar (u % 16)] := by
  have hone : hexDigits 1 (u / 16 / 16 / 16) = [Nat.digitChar (u / 16 / 16 / 16)] := by
    rw [hexDigits, Nat.toDigits_eq_if (by decide), if_pos (by omega)]
    rfl
  rw [hexDigits_succ (by decide), hexDigits_succ (by decide), hexDigits_succ (by decide), hone]
  rfl

end Text

namespace Json

open Text

variable {u : ℕ}

def consUnit (u : ℕ) : Except Fault (List ℕ × List Char) → Except Fault (List ℕ × List Char)
  | .ok (us, rest) => .ok (u :: us, rest)
  | .error f => .error f

lemma units_letter {e : Char} (he : escapeUnit? e = some u) (cs : List Char) :
    units ('\\' :: e :: cs) = consUnit u (units cs) := by
  rw [units, he]
  · cases units cs <;> rfl
  · rintro _ _ _ _ _ rfl
    cases he

lemma units_hexDigits (hu : u < 0x10000) (cs : List Char) :
    units ('\\' :: 'u' :: hexDigits 4 u ++ cs) = consUnit u (units cs) := by
  have hvalue : ofDigits 16 [u / 16 / 16 / 16, u / 16 / 16 % 16, u / 16 % 16, u % 16] = u := by
    simp only [ofDigits, List.foldl_cons, List.foldl_nil]
    omega
  have hunit : unit? (Nat.digitChar (u / 16 / 16 / 16)) (Nat.digitChar (u / 16 / 16 % 16))
      (Nat.digitChar (u / 16 % 16)) (Nat.digitChar (u % 16)) = some u := by
    rw [unit?, hexDigit?_digitChar (by omega), hexDigit?_digitChar (Nat.mod_lt _ (by decide)),
      hexDigit?_digitChar (Nat.mod_lt _ (by decide)),
      hexDigit?_digitChar (Nat.mod_lt _ (by decide))]
    exact congrArg some hvalue
  rw [hexDigits_four hu]
  simp only [List.cons_append, List.nil_append]
  rw [units, hunit]
  cases units cs <;> rfl

lemma units_plain {c : Char} (hc : 32 ≤ c.toNat) (hquote : c ≠ '"') (hslash : c ≠ '\\')
    (cs : List Char) : units (c :: cs) = consUnit c.toNat (units cs) := by
  rw [units, if_neg (Nat.not_lt.2 hc)]
  · cases units cs <;> rfl
  · exact hquote
  · exact fun _ _ _ _ _ h => absurd h hslash
  · exact fun _ _ h => absurd h hslash

lemma units_unitChars (hu : u < 0x10000) (cs : List Char) :
    units (unitChars u ++ cs) = consUnit u (units cs) := by
  rw [unitChars.eq_def]
  split_ifs with hquote hslash hnewline hreturn htab hfeed hback hplain
  · exact units_letter (by rw [hquote]; rfl) cs
  · exact units_letter (by rw [hslash]; rfl) cs
  · exact units_letter (by rw [hnewline]; rfl) cs
  · exact units_letter (by rw [hreturn]; rfl) cs
  · exact units_letter (by rw [htab]; rfl) cs
  · exact units_letter (by rw [hfeed]; rfl) cs
  · exact units_letter (by rw [hback]; rfl) cs
  · -- printable and none of the characters above: it stands for itself
    have hchar : (Char.ofNat u).toNat = u := by
      rw [Char.ofNat, dif_pos (show u.isValidChar from .inl (by omega))]
      rfl
    have hne : ∀ c : Char, u ≠ c.toNat → Char.ofNat u ≠ c := by
      rintro c hc rfl
      exact hc hchar.symm
    have h := units_plain (c := Char.ofNat u) (by omega) (hne _ hquote) (hne _ hslash) cs
    rw [hchar] at h
    exact h
  · exact units_hexDigits hu cs

lemma units_flatMap {us : List ℕ} (hus : ∀ u ∈ us, u < 0x10000) (rest : List Char) :
    units (us.flatMap unitChars ++ '"' :: rest) = .ok (us, rest) := by
  induction us with
  | nil => rfl
  | cons u us ih =>
    obtain ⟨hu, hus⟩ := List.forall_mem_cons.1 hus
    rw [List.flatMap_cons, List.append_assoc, units_unitChars hu, ih hus]
    rfl

/-- **A string is read back as it was written**, unless two halves in it would be a pair. -/
lemma string_stringChars {s : Points} (hs : apart s = true) (rest : List Char) :
    ∃ cs, stringChars s = '"' :: cs ∧ string (cs ++ rest) = .ok (s, rest) := by
  refine ⟨(toUnits s).flatMap unitChars ++ ['"'], rfl, ?_⟩
  rw [string, List.append_assoc, List.singleton_append,
    units_flatMap (fun u hu => toUnits_lt hu)]
  simp [ofUnits_toUnits hs, bind, Except.bind, pure, Except.pure]

end Json

end Daybook
