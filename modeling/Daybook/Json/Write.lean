import Daybook.Json.Basic
import Daybook.Number.Shortest
import Daybook.Text.Units

/-!
Writing JSON text, in one line or with one item a line. Only characters from space to tilde are
written as themselves, so the text is the same in every encoding.
-/

namespace Daybook.Json

open Text

/-- One unit of a string. -/
def unitChars (u : Nat) : List Char :=
  if u = 34 then ['\\', '"']
  else if u = 92 then ['\\', '\\']
  else if u = 10 then ['\\', 'n']
  else if u = 13 then ['\\', 'r']
  else if u = 9 then ['\\', 't']
  else if u = 12 then ['\\', 'f']
  else if u = 8 then ['\\', 'b']
  else if 32 ≤ u ∧ u ≤ 126 then [Char.ofNat u]
  else '\\' :: 'u' :: hexDigits 4 u

def stringChars (s : Points) : List Char := '"' :: (toUnits s).flatMap unitChars ++ ['"']

/-- A double as its shortest decimal; the values that are no finite number have names. -/
def floatChars (x : Float) : List Char :=
  match Number.parts x with
  | .nan => "NaN".toList
  | .infinite false => "Infinity".toList
  | .infinite true => "-Infinity".toList
  | .finite .. => Number.chars x

def scalarChars : Json → List Char
  | .bool true => "true".toList
  | .bool false => "false".toList
  | .int n => intDigits n
  | .float x => floatChars x
  | .text s => stringChars s
  | _ => "null".toList

mutual

/-- A value in one line, without white space. -/
def lineChars : Json → List Char
  | .array xs => '[' :: lineItems xs ++ [']']
  | .object fs => '\x7b' :: lineFields fs ++ ['\x7d']
  | j => scalarChars j

def lineItems : List Json → List Char
  | [] => []
  | x :: xs => lineChars x ++ match xs with
    | [] => []
    | _ :: _ => ',' :: lineItems xs

def lineFields : List (Points × Json) → List Char
  | [] => []
  | (k, x) :: xs => stringChars k ++ ':' :: lineChars x ++ match xs with
    | [] => []
    | _ :: _ => ',' :: lineFields xs

end

def newline (depth : Nat) : List Char := '\n' :: List.replicate (2 * depth) ' '

mutual

/-- A value that stands at the given depth, with one item or field a line. -/
def indented (depth : Nat) : Json → List Char
  | .array [] => ['[', ']']
  | .array xs => '[' :: indentedItems (depth + 1) xs ++ newline depth ++ [']']
  | .object [] => ['\x7b', '\x7d']
  | .object fs => '\x7b' :: indentedFields (depth + 1) fs ++ newline depth ++ ['\x7d']
  | j => scalarChars j

def indentedItems (depth : Nat) : List Json → List Char
  | [] => []
  | x :: xs => newline depth ++ indented depth x ++ match xs with
    | [] => []
    | _ :: _ => ',' :: indentedItems depth xs

def indentedFields (depth : Nat) : List (Points × Json) → List Char
  | [] => []
  | (k, x) :: xs =>
    newline depth ++ stringChars k ++ ':' :: ' ' :: indented depth x ++ match xs with
    | [] => []
    | _ :: _ => ',' :: indentedFields depth xs

end

/-- The canonical text of a value: fields in the order of their keys, two blanks a level. -/
def canonical (j : Json) : List Char := indented 0 (sorted j)

end Daybook.Json
