import Daybook.Expr.Lexer

/-!
The words of a whole template: text, comments, raw parts, print statements and other statements.
A sign inside an opening or a closing decides whether the blanks on its outer side belong to the
text.
-/

namespace Daybook.Markup

open Text

/-- What can open after some text. -/
inductive Part
  | raw
  | comment
  | print
  | block

/-- A place where something opens or closes: whether the blanks before it are dropped, and what
follows it. -/
structure Cut where
  strips : Bool
  rest : List Char

/-- The sign at the beginning of a text, if it has one, and what follows. -/
def takeSign : List Char → Cut
  | '-' :: cs => ⟨true, cs⟩
  | '+' :: cs => ⟨false, cs⟩
  | cs => ⟨false, cs⟩

/-- What follows a word with blanks around it. -/
def afterWord? (word : String) (cs : List Char) : Option (List Char) :=
  (after? word.toList (cs.dropWhile isBlank)).map (List.dropWhile isBlank)

/-- The end of the opening of a raw part. -/
def rawOpened? : List Char → Option (List Char)
  | '-' :: '%' :: '\x7d' :: cs => some (cs.dropWhile isBlank)
  | '%' :: '\x7d' :: cs => some cs
  | _ => none

/-- What opens at the beginning of a text. -/
def opening? : List Char → Option (Part × Cut)
  | '\x7b' :: '%' :: cs =>
    let inside := takeSign cs
    match (afterWord? "raw" inside.rest).bind rawOpened? with
    | some rest => some (.raw, ⟨inside.strips, rest⟩)
    | none => some (.block, inside)
  | '\x7b' :: '#' :: cs => some (.comment, takeSign cs)
  | '\x7b' :: '\x7b' :: cs => some (.print, takeSign cs)
  | _ => none

/-- The end of a comment. -/
def commentEnd? : List Char → Option (List Char)
  | '-' :: '#' :: '\x7d' :: cs => some (cs.dropWhile isBlank)
  | '+' :: '#' :: '\x7d' :: cs => some cs
  | '#' :: '\x7d' :: cs => some cs
  | _ => none

/-- The end of a raw part. -/
def rawEnd? : List Char → Option Cut
  | '\x7b' :: '%' :: cs =>
    let inside := takeSign cs
    ((afterWord? "endraw" inside.rest).bind Token.blockEnd?).map fun rest => ⟨inside.strips, rest⟩
  | _ => none

/-- The characters before the first place where something is found, and what is found there. -/
def cutAt {α : Type} (found? : List Char → Option α) : List Char → List Char × Option α
  | [] => ([], none)
  | c :: cs =>
    match found? (c :: cs) with
    | some a => ([], some a)
    | none =>
      let (before, a) := cutAt found? cs
      (c :: before, a)

def dataOf (strips : Bool) (cs : List Char) : List Token :=
  let cs := if strips then (cs.reverse.dropWhile isBlank).reverse else cs
  if cs = [] then [] else [.data (cs.all isBlank)]

/-- The words of a text. Positions are counted from `total` characters before its end; the first
number bounds the parts. -/
def cutParts (total : Nat) : Nat → List Char → List Token
  | 0, _ => []
  | n + 1, cs =>
    match cutAt opening? cs with
    | (text, none) => dataOf false text
    | (text, some (part, ⟨strips, rest⟩)) =>
      dataOf strips text ++
        match part with
        | .comment =>
          match cutAt commentEnd? rest with
          | (_, some rest) => cutParts total n rest
          | (_, none) => [.fault .openComment]
        | .raw =>
          match cutAt rawEnd? rest with
          | (text, some ⟨strips, rest⟩) => dataOf strips text ++ cutParts total n rest
          | (_, none) => [.fault .openRaw]
        | .print =>
          let (ts, rest) := Token.ofPrint total rest
          .printBegin :: ts ++ cutParts total n rest
        | .block =>
          let (ts, rest) := Token.ofBlock total rest
          .blockBegin :: ts ++ cutParts total n rest

def words (total : Nat) (cs : List Char) : List Token := cutParts total (cs.length + 1) cs

end Daybook.Markup
