import Daybook.Text.ClassTable

/-!
Character classes: blanks, decimal digits of every script, word characters, identifiers and
visible characters. Characters below 128 are classified by rule, all others by table.
-/

namespace Daybook.Text

/-- The class of a character below 128; the underscore is not a letter here. -/
def asciiClass (n : Nat) : CharClass :=
  if 48 ≤ n ∧ n ≤ 57 then .digit
  else if (65 ≤ n ∧ n ≤ 90) ∨ (97 ≤ n ∧ n ≤ 122) then .letter
  else if 32 ≤ n ∧ n ≤ 126 then .symbol
  else .hidden

/-- Halves the interval of runs from `lo` to `hi` until one is left, the last that begins at or
before `n`. -/
def bisect (n : Nat) : Nat → Nat → Nat → Nat
  | 0, lo, _ => lo
  | k + 1, lo, hi =>
    if hi ≤ lo + 1 then lo
    else
      let mid := (lo + hi) / 2
      if (classRuns.getD mid (0, .hidden)).1 ≤ n then bisect n k mid hi else bisect n k lo mid

/-- The class of the run that holds the code point `n`. -/
def tableClass (n : Nat) : CharClass :=
  (classRuns.getD (bisect n classRuns.size 0 classRuns.size) (0, .hidden)).2

def charClass (c : Char) : CharClass :=
  if c.toNat < 128 then asciiClass c.toNat else tableClass c.toNat

/-- White space of every script: it separates words and is cut from the ends of a text. -/
def isBlank (c : Char) : Bool :=
  let n := c.toNat
  (9 ≤ n && n ≤ 13) || (28 ≤ n && n ≤ 32) || n == 0x85 || n == 0xa0 || n == 0x1680 ||
    (0x2000 ≤ n && n ≤ 0x200a) || n == 0x2028 || n == 0x2029 || n == 0x202f || n == 0x205f ||
    n == 0x3000

/-- A letter, digit or other numeral, or the underscore. -/
def isWord (c : Char) : Bool :=
  c == '_' || match charClass c with
    | .letter | .digit | .numeral => true
    | _ => false

def isIdentStart (c : Char) : Bool :=
  c == '_' || match charClass c with
    | .letter | .sign => true
    | _ => false

def isIdentRest (c : Char) : Bool :=
  c == '_' || match charClass c with
    | .letter | .digit | .mark | .late | .sign => true
    | _ => false

/-- What a run of name characters may hold before it is asked whether it is an identifier. -/
def isNameChar (c : Char) : Bool :=
  c == '_' || match charClass c with
    | .late | .symbol | .hidden => false
    | _ => true

/-- An identifier begins with a letter or the underscore and goes on with letters, digits and
marks. -/
def isIdentifier : List Char → Bool
  | [] => false
  | c :: cs => isIdentStart c && cs.all isIdentRest

/-- A character that is shown as itself inside quotes. -/
def isVisible (c : Char) : Bool := charClass c != .hidden

/-- The zero of every script that writes decimal numbers; its nine successors follow it. -/
def decimalZeros : List Nat := [
  0x30, 0x660, 0x6f0, 0x7c0, 0x966, 0x9e6, 0xa66, 0xae6, 0xb66, 0xbe6, 0xc66, 0xce6, 0xd66,
  0xde6, 0xe50, 0xed0, 0xf20, 0x1040, 0x1090, 0x17e0, 0x1810, 0x1946, 0x19d0, 0x1a80, 0x1a90,
  0x1b50, 0x1bb0, 0x1c40, 0x1c50, 0xa620, 0xa8d0, 0xa900, 0xa9d0, 0xa9f0, 0xaa50, 0xabf0, 0xff10,
  0x104a0, 0x10d30, 0x11066, 0x110f0, 0x11136, 0x111d0, 0x112f0, 0x11450, 0x114d0, 0x11650,
  0x116c0, 0x11730, 0x118e0, 0x11950, 0x11c50, 0x11d50, 0x11da0, 0x16a60, 0x16ac0, 0x16b50,
  0x1d7ce, 0x1d7d8, 0x1d7e2, 0x1d7ec, 0x1d7f6, 0x1e140, 0x1e2f0, 0x1e950, 0x1fbf0]

/-- The value of a decimal digit of any script. -/
def decimal? (c : Char) : Option Nat :=
  let n := c.toNat
  if n < 128 then if 48 ≤ n ∧ n ≤ 57 then some (n - 48) else none
  else (decimalZeros.find? fun z => decide (z ≤ n ∧ n < z + 10)).map (n - ·)

def isDecimal (c : Char) : Bool := (decimal? c).isSome

def digit? (c : Char) : Option Nat :=
  if '0' ≤ c ∧ c ≤ '9' then some (c.toNat - 48) else none

def isDigit (c : Char) : Bool := (digit? c).isSome

/-- The value of a digit in base sixteen, in either case. -/
def hexDigit? (c : Char) : Option Nat :=
  if '0' ≤ c ∧ c ≤ '9' then some (c.toNat - 48)
  else if 'a' ≤ c ∧ c ≤ 'f' then some (c.toNat - 87)
  else if 'A' ≤ c ∧ c ≤ 'F' then some (c.toNat - 55)
  else none

/-- The lower-case form of an unaccented capital; every other character is left alone. -/
def lowerAscii (c : Char) : Char :=
  if 'A' ≤ c ∧ c ≤ 'Z' then Char.ofNat (c.toNat + 32) else c

end Daybook.Text
