/-!
Names of characters in a row. Neighbours often have names that differ in a word or two, so a row
gives the first name and then, for every other character, the words that are new.
-/

namespace Daybook.Text.CharName

/-- Characters in a row, from `first` on, with an entry for each. An entry begins with a letter
for the number of first words that its name shares with the name before, `a` for none. The new
words follow, and if last words are shared as well, a letter for their number, `q` for one. Where
a line ends is of no account. -/
structure Row where
  first : Nat
  lines : List String

def Row.entries (row : Row) : List (List Char) :=
  (row.lines.flatMap String.toList).splitBy fun _ c => !('a' ≤ c && c ≤ 'p')

/-- The words of a name, from those of the name before it. -/
def expand (before : List (List Char)) : List Char → List (List Char)
  | [] => []
  | c :: cs =>
    let fresh := cs.takeWhile fun d => !d.isLower
    let last := match cs.dropWhile fun d => !d.isLower with
      | d :: _ => d.toNat + 1 - 'q'.toNat
      | [] => 0
    before.take (c.toNat - 'a'.toNat) ++ (if fresh = [] then [] else fresh.splitOn ' ') ++
      before.drop (before.length - last)

/-- The names that entries stand for, by their words. -/
def expandAll (before : List (List Char)) : List (List Char) → List (List (List Char))
  | [] => []
  | e :: es =>
    let name := expand before e
    name :: expandAll name es

def Row.names (row : Row) : List (List (List Char)) := expandAll [] row.entries

/-- The code point of the character with the given name. -/
def Row.code? (row : Row) (name : List (List Char)) : Option Nat :=
  (row.names.findIdx? (· == name)).map (row.first + ·)

end Daybook.Text.CharName
