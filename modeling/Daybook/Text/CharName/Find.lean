import Daybook.Text.CharName.Alias
import Daybook.Text.CharName.Alphabets
import Daybook.Text.CharName.EastAsia
import Daybook.Text.CharName.Numbered
import Daybook.Text.CharName.OldScripts
import Daybook.Text.CharName.Pictures
import Daybook.Text.CharName.Syllabaries
import Daybook.Text.CharName.Symbols

/-!
Looking a character up by its name. Case does not matter, except in the names of syllables and
of unified ideographs.
-/

namespace Daybook.Text

open CharName

/-- The code point of the character whose name, or further name, in capitals is given. -/
def listedName? (name : List Char) : Option Nat :=
  let words := name.splitOn ' '
  (aliases.find? fun (_, a) => a.toList == name).map (·.1) <|>
    numberedRows.findSome? (·.code? name) <|>
    [alphabets, syllabaries, symbols, eastAsia, oldScripts, pictures].findSome?
      fun rows => rows.findSome? (·.code? words)

/-- The code point of the character with the given name. -/
def charNamed? (name : List Char) : Option Nat :=
  match after? "HANGUL SYLLABLE ".toList name, after? "CJK UNIFIED IDEOGRAPH-".toList name with
  | some spelling, _ => syllable? spelling
  | _, some number => ideograph? number
  | _, _ => listedName? (name.map Char.toUpper)

end Daybook.Text
