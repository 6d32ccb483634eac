import Daybook.Json.Basic
import Daybook.Number.Shortest

/-!
How messages and names show a value read from JSON: strings in quotes, items in brackets.
-/

namespace Daybook.Json

open Text

mutual

/-- A value as a message shows it. -/
def shown : Json → List Char
  | .null => "None".toList
  | .bool true => "True".toList
  | .bool false => "False".toList
  | .int n => intDigits n
  | .float x => Number.chars x
  | .text s => s.quoted
  | .array xs => '[' :: shownItems xs ++ [']']
  | .object fs => '\x7b' :: shownFields fs ++ ['\x7d']

def shownItems : List Json → List Char
  | [] => []
  | x :: xs => shown x ++ match xs with
    | [] => []
    | _ :: _ => ',' :: ' ' :: shownItems xs

def shownFields : List (Points × Json) → List Char
  | [] => []
  | (k, x) :: xs => k.quoted ++ ':' :: ' ' :: shown x ++ match xs with
    | [] => []
    | _ :: _ => ',' :: ' ' :: shownFields xs

end

/-- A value as a name: a string stands for itself. -/
def asName : Json → Points
  | .text s => s
  | j => .ofChars (shown j)

/-- Whether a value counts as given: null, false, zero and what is empty do not. -/
def isGiven : Json → Bool
  | .null => false
  | .bool b => b
  | .int n => n != 0
  | .float x => !(x == 0.0)
  | .text s => !s.isEmpty
  | .array xs => !xs.isEmpty
  | .object fs => !fs.isEmpty

/-- What kind of value a message says it is. -/
def kindName : Json → String
  | .null => "NoneType"
  | .bool _ => "bool"
  | .int _ => "int"
  | .float _ => "float"
  | .text _ => "str"
  | .array _ => "list"
  | .object _ => "dict"

end Daybook.Json
