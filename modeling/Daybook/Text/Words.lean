import Daybook.Text.Chars

/-!
Texts as lists of characters: cutting blanks off the ends, taking a known beginning off,
replacing and counting occurrences, writing whole numbers.
-/

namespace Daybook.Text

def trim (cs : List Char) : List Char :=
  ((cs.dropWhile isBlank).reverse.dropWhile isBlank).reverse

/-- What follows the given beginning, if the text has it. -/
def after? : List Char → List Char → Option (List Char)
  | [], cs => some cs
  | _ :: _, [] => none
  | p :: ps, c :: cs => if p = c then after? ps cs else none

/-- Replaces every occurrence of `old`, from the left and without overlaps. The first argument
counts the characters of the last occurrence that are still to be passed over. -/
def replaceFrom (old new : List Char) : Nat → List Char → List Char
  | _, [] => []
  | n + 1, _ :: cs => replaceFrom old new n cs
  | 0, c :: cs =>
    if (after? old (c :: cs)).isSome then new ++ replaceFrom old new (old.length - 1) cs
    else c :: replaceFrom old new 0 cs

def replaceAll (old new cs : List Char) : List Char := replaceFrom old new 0 cs

/-- Counts the occurrences of a text of two characters, from the left and without overlaps. -/
def countPair (a b : Char) : List Char → Nat
  | x :: y :: cs => if x = a ∧ y = b then countPair a b cs + 1 else countPair a b (y :: cs)
  | _ => 0

/-- The decimal digits of a natural number, the most significant first. -/
def natDigits (n : Nat) : List Char := Nat.toDigits 10 n

def intDigits : Int → List Char
  | .ofNat n => natDigits n
  | .negSucc n => '-' :: natDigits (n + 1)

def natText (n : Nat) : String := String.ofList (natDigits n)

def intText (n : Int) : String := String.ofList (intDigits n)

def padLeft (c : Char) (width : Nat) (cs : List Char) : List Char :=
  List.replicate (width - cs.length) c ++ cs

def padRight (c : Char) (width : Nat) (cs : List Char) : List Char :=
  cs ++ List.replicate (width - cs.length) c

/-- A natural number with at least `width` digits. -/
def paddedNat (width n : Nat) : List Char := padLeft '0' width (natDigits n)

/-- The digits of a number in base sixteen, in small letters, at least `width` of them. -/
def hexDigits (width n : Nat) : List Char := padLeft '0' width (Nat.toDigits 16 n)

/-- The value of a list of digits in the given base. -/
def ofDigits (base : Nat) (ds : List Nat) : Nat := ds.foldl (fun v d => base * v + d) 0

def lower (cs : List Char) : List Char := cs.map lowerAscii

theorem after?_eq_some_iff {p cs rest : List Char} : after? p cs = some rest ↔ cs = p ++ rest := by
  induction p generalizing cs with
  | nil => simp [after?]
  | cons a p ih =>
    cases cs with
    | nil => simp [after?]
    | cons c cs =>
      by_cases h : a = c
      · simp [after?, h, ih]
      · simp [after?, h, Ne.symm h]

end Daybook.Text
