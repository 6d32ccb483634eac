import Daybook.Text.Words

/-!
Finding the placeholders of a template: two opening braces, an expression, perhaps two colons
and a format, two closing braces. Expression and format are made of a few kinds of characters,
so a placeholder never holds another one.
-/

namespace Daybook

open Text

structure Placeholder where
  /-- The placeholder as it stands in the text, with its braces. -/
  source : List Char
  expression : List Char
  /-- The format without blanks around it; none if there is nothing else. -/
  format : Option (List Char)
  deriving DecidableEq, Repr

namespace Placeholder

/-- What both an expression and a format may hold. -/
def isCommon (c : Char) : Bool :=
  isWord c || isBlank c || c ∈ ['+', '-', '*', '/', '(', ')', '[', ']', '%', '.']

def isExpression (c : Char) : Bool := isCommon c || c == ','

def isFormat (c : Char) : Bool := isCommon c || c == ':'

/-- The format of a placeholder, from the one that is written. -/
def formatOf (raw : List Char) : Option (List Char) :=
  let cs := trim raw
  if cs = [] then none else some cs

/-- What follows an expression: the written format, if there is one. -/
def ending? : List Char → Option (Option (List Char))
  | '\x7d' :: '\x7d' :: _ => some none
  | ':' :: ':' :: cs =>
    let raw := cs.takeWhile isFormat
    if raw = [] then none
    else
      match cs.dropWhile isFormat with
      | '\x7d' :: '\x7d' :: _ => some (some raw)
      | _ => none
  | _ => none

/-- A placeholder from its expression and the written format. -/
def make (expression : List Char) (raw : Option (List Char)) : Placeholder where
  source := '\x7b' :: '\x7b' :: expression ++
    (match raw with
      | some f => ':' :: ':' :: f
      | none => []) ++ ['\x7d', '\x7d']
  expression
  format := raw.bind formatOf

/-- The placeholder that a text begins with. -/
def first? : List Char → Option Placeholder
  | '\x7b' :: '\x7b' :: cs =>
    let expression := cs.takeWhile isExpression
    if expression = [] then none else (ending? (cs.dropWhile isExpression)).map (make expression)
  | _ => none

/-- All placeholders of a text, from the left. The number counts the characters of the last one
that are still to be passed over. -/
def scan : Nat → List Char → List Placeholder
  | _, [] => []
  | n + 1, _ :: cs => scan n cs
  | 0, c :: cs =>
    match first? (c :: cs) with
    | some p => p :: scan (p.source.length - 1) cs
    | none => scan 0 cs

/-- All placeholders of a text, as often as they occur. -/
def all (cs : List Char) : List Placeholder := scan 0 cs

/-- The placeholders with different sources, in the order in which they first occur. -/
def distinct : List (List Char) → List Placeholder → List Placeholder
  | _, [] => []
  | seen, p :: ps =>
    if p.source ∈ seen then distinct seen ps else p :: distinct (p.source :: seen) ps

/-- The different placeholders of a text. -/
def find (cs : List Char) : List Placeholder := distinct [] (all cs)

end Placeholder

end Daybook
