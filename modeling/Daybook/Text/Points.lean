import Daybook.Text.Quoted

/-!
Texts of code points. A text that is spelled with escapes may hold halves of pairs that stand
alone. A half is no character, and the two are kept apart.
-/

namespace Daybook

/-- A code point: a character, or the first or the second half of a pair, with its ten bits. -/
inductive Point
  | char (c : Char)
  | high (bits : BitVec 10)
  | low (bits : BitVec 10)
  deriving DecidableEq, Repr

namespace Point

def code : Point → Nat
  | char c => c.toNat
  | high b => 0xD800 + b.toNat
  | low b => 0xDC00 + b.toNat

/-- The point with the given code. -/
def ofCode (n : Nat) : Point :=
  if 0xD800 ≤ n ∧ n < 0xDC00 then high (BitVec.ofNat 10 n)
  else if 0xDC00 ≤ n ∧ n < 0xE000 then low (BitVec.ofNat 10 n)
  else char (Char.ofNat n)

/-- The point as a character. A half becomes the one that stands for what is no character. -/
def shape : Point → Char
  | char c => c
  | _ => '\ufffd'

/-- No character has the code of a half. -/
theorem toNat_valid (c : Char) : c.toNat < 0xD800 ∨ 0xDFFF < c.toNat ∧ c.toNat < 0x110000 :=
  c.valid

theorem code_lt (p : Point) : p.code < 0x110000 := by
  cases p with
  | char c =>
    have h := toNat_valid c
    rw [code]
    omega
  | high b | low b =>
    rw [code]
    omega

theorem ofCode_code (p : Point) : ofCode p.code = p := by
  cases p with
  | char c =>
    have h := toNat_valid c
    rw [code, ofCode, if_neg (by omega), if_neg (by omega), Char.ofNat_toNat]
  | high b =>
    rw [code, ofCode, if_pos (by omega)]
    exact congrArg high (BitVec.eq_of_toNat_eq (by rw [BitVec.toNat_ofNat]; omega))
  | low b =>
    rw [code, ofCode, if_neg (by omega), if_pos (by omega)]
    exact congrArg low (BitVec.eq_of_toNat_eq (by rw [BitVec.toNat_ofNat]; omega))

end Point

abbrev Points := List Point

namespace Points

def ofChars (cs : List Char) : Points := cs.map .char

def ofString (s : String) : Points := ofChars s.toList

instance : Coe String Points := ⟨ofString⟩

/-- The text as characters. Where halves count for nothing but being no blanks, digits or
letters, this is what is read of it. -/
def shape (ps : Points) : List Char := ps.map Point.shape

/-- Whether a text stands before another one in the order of codes, or is the same. -/
def le : Points → Points → Bool
  | [], _ => true
  | _ :: _, [] => false
  | p :: ps, q :: qs => p.code < q.code || (p.code == q.code && le ps qs)

/-- One point inside quotes `q`. A half is hidden. -/
def quotePoint (q : Char) : Point → List Char
  | .char c => Text.quoteChar q c
  | p => '\\' :: 'u' :: Text.hexDigits 4 p.code

/-- A text between quotes, as messages show it. -/
def quoted (ps : Points) : List Char :=
  let q := Text.quoteFor ps.shape
  q :: ps.flatMap (quotePoint q) ++ [q]

@[simp] theorem shape_ofChars (cs : List Char) : (ofChars cs).shape = cs := by
  simp [shape, ofChars, Function.comp_def, Point.shape]

@[simp] theorem shape_ofString (s : String) : (ofString s).shape = s.toList := shape_ofChars _

@[simp] theorem ofString_inj {s t : String} : ofString s = ofString t ↔ s = t := by
  refine ⟨fun h => ?_, fun h => h ▸ rfl⟩
  have hchars := congrArg shape h
  rw [shape_ofString, shape_ofString] at hchars
  exact String.toList_inj.1 hchars

/-! ### The order of texts -/

variable {ps qs rs : Points} {p q : Point}

theorem le_cons : le (p :: ps) (q :: qs) = true ↔
    p.code < q.code ∨ p.code = q.code ∧ ps.le qs = true := by
  simp [le]

theorem le_trans (h : ps.le qs = true) (h' : qs.le rs = true) : ps.le rs = true := by
  induction ps generalizing qs rs with
  | nil => rfl
  | cons p ps ih =>
    cases qs with
    | nil => cases h
    | cons q qs =>
      cases rs with
      | nil => cases h'
      | cons r rs =>
        rw [le_cons] at h h' ⊢
        rcases h with h | ⟨h, hle⟩
        · exact .inl (by omega)
        · rcases h' with h' | ⟨h', hle'⟩
          · exact .inl (by omega)
          · exact .inr ⟨h.trans h', ih hle hle'⟩

theorem le_total (ps qs : Points) : ps.le qs = true ∨ qs.le ps = true := by
  induction ps generalizing qs with
  | nil => exact .inl rfl
  | cons p ps ih =>
    cases qs with
    | nil => exact .inr rfl
    | cons q qs =>
      rw [le_cons, le_cons]
      rcases Nat.lt_trichotomy p.code q.code with h | h | h
      · exact .inl (.inl h)
      · exact (ih qs).imp (fun hle => .inr ⟨h, hle⟩) fun hle => .inr ⟨h.symm, hle⟩
      · exact .inr (.inl h)

theorem le_antisymm (h : ps.le qs = true) (h' : qs.le ps = true) : ps = qs := by
  induction ps generalizing qs with
  | nil =>
    cases qs with
    | nil => rfl
    | cons => cases h'
  | cons p ps ih =>
    cases qs with
    | nil => cases h
    | cons q qs =>
      rw [le_cons] at h h'
      rcases h with h | ⟨h, hle⟩
      · omega
      · rcases h' with h' | ⟨-, hle'⟩
        · omega
        · rw [ih hle hle', ← p.ofCode_code, h, q.ofCode_code]

end Points

end Daybook
