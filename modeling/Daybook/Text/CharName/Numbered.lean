import Daybook.Text.Words

/-!
Names that follow a rule: rows of characters that are told apart by a number, ideographs, and
syllables that are spelled by their parts.
-/

namespace Daybook.Text.CharName

/-- The number that ends a name: the code point in base sixteen, or a count. -/
inductive Label
  | code
  | count (start width : Nat)

/-- The label of the character at place `i` of a row, whose code point is `n`. -/
def Label.chars (n i : Nat) : Label → List Char
  | code => (hexDigits 4 n).map Char.toUpper
  | count start width => paddedNat width (start + i)

/-- Characters in a row whose names have a common stem. -/
structure NumberedRow where
  stem : String
  first : Nat
  size : Nat
  label : Label

def NumberedRow.code? (row : NumberedRow) (name : List Char) : Option Nat := do
  let number ← after? row.stem.toList name
  let i ← (List.range row.size).find? fun i => row.label.chars (row.first + i) i == number
  pure (row.first + i)

def numberedRows : List NumberedRow := [
  ⟨"CJK COMPATIBILITY IDEOGRAPH-", 0xf900, 0x16e, .code⟩,
  ⟨"CJK COMPATIBILITY IDEOGRAPH-", 0xfa70, 0x6a, .code⟩,
  ⟨"CJK COMPATIBILITY IDEOGRAPH-", 0x2f800, 0x21e, .code⟩,
  ⟨"KHITAN SMALL SCRIPT CHARACTER-", 0x18b00, 0x1d6, .code⟩,
  ⟨"NUSHU CHARACTER-", 0x1b170, 0x18c, .code⟩,
  ⟨"TANGUT COMPONENT-", 0x18800, 768, .count 1 3⟩,
  ⟨"VARIATION SELECTOR-", 0xfe00, 16, .count 1 1⟩,
  ⟨"VARIATION SELECTOR-", 0xe0100, 240, .count 17 1⟩,
  ⟨"VS", 0xfe00, 16, .count 1 1⟩,
  ⟨"VS", 0xe0100, 240, .count 17 1⟩]

/-- The first and the last code point of every block of unified ideographs. -/
def ideographBlocks : List (Nat × Nat) := [
  (0x3400, 0x4dbf), (0x4e00, 0x9fff), (0x20000, 0x2a6df), (0x2a700, 0x2b738), (0x2b740, 0x2b81d),
  (0x2b820, 0x2cea1), (0x2ceb0, 0x2ebe0), (0x30000, 0x3134a)]

/-- The unified ideograph whose name ends in the given digits: its code point in base sixteen, in
four or five digits with capital letters. -/
def ideograph? (number : List Char) : Option Nat :=
  let n := ofDigits 16 (number.filterMap hexDigit?)
  if (hexDigits 4 n).map Char.toUpper = number ∨ (hexDigits 5 n).map Char.toUpper = number then
    if ideographBlocks.any fun (a, b) => decide (a ≤ n ∧ n ≤ b) then some n else none
  else none

/-! ### Syllables -/

def leads : List String := ["G", "GG", "N", "D", "DD", "R", "M", "B", "BB", "S", "SS", "", "J", "JJ",
  "C", "K", "T", "P", "H"]

def vowels : List String := ["A", "AE", "YA", "YAE", "EO", "E", "YEO", "YE", "O", "WA", "WAE", "OE",
  "YO", "U", "WEO", "WE", "WI", "YU", "EU", "YI", "I"]

def tails : List String := ["", "G", "GG", "GS", "N", "NJ", "NH", "D", "L", "LG", "LM", "LB", "LS",
  "LT", "LP", "LH", "M", "B", "BS", "S", "SS", "NG", "J", "C", "K", "T", "P", "H"]

/-- The place of the longest of the parts that a text begins with, and what follows it. -/
def longest? (parts : List String) (cs : List Char) : Option (Nat × List Char) :=
  (parts.zipIdx.filterMap fun (p, i) => (after? p.toList cs).map fun rest => (i, rest)).foldl
    (fun best found => match best with
      | some b => if found.2.length < b.2.length then some found else best
      | none => some found) none

/-- The syllable with the given spelling. Every part is read as long as it can be. -/
def syllable? (cs : List Char) : Option Nat := do
  let (lead, cs) ← longest? leads cs
  let (vowel, cs) ← longest? vowels cs
  let (tail, cs) ← longest? tails cs
  if cs = [] then pure (0xac00 + (lead * vowels.length + vowel) * tails.length + tail) else none

end Daybook.Text.CharName
