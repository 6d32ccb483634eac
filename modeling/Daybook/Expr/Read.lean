import Daybook.Expr.Markup
import Daybook.Expr.Statement
import Daybook.Fault

/-!
Reading an expression from a text. The text is read as the inside of a print statement; it has
to be all of that statement, and its tree may hold only what expressions have.
-/

namespace Daybook

open Text

namespace Tree

mutual

/-- The tree as an expression. The outermost construct that expressions do not have is
reported, of two such the left one. -/
def toExpr : Tree → Except Fault Expr
  | .lit l => .ok (.lit l)
  | .name w => .ok (.name w)
  | .sign s e => do return .unary s (← toExpr e)
  | .op o a b => do
    let a ← toExpr a
    let b ← toExpr b
    return .binary o a b
  | .call (.name f) args plain =>
    if plain then (.call f ·) <$> toExprs args else .error (.positionalOnly f)
  | .call _ _ _ => .error .namelessCall
  | .tuple _ => .error (.unsupported .tuple)
  | .other c => .error (.unsupported c)

def toExprs : List Tree → Except Fault (List Expr)
  | [] => .ok []
  | t :: ts => do
    let e ← toExpr t
    let es ← toExprs ts
    return e :: es

end

end Tree

namespace Expr

/-- Every kind of line end as a single character. -/
def unifyLineEnds : List Char → List Char
  | '\r' :: '\n' :: cs => '\n' :: unifyLineEnds cs
  | '\r' :: cs => '\n' :: unifyLineEnds cs
  | c :: cs => c :: unifyLineEnds cs
  | [] => []

def opening : List Char := ['\x7b', '\x7b', ' ']

def closing : List Char := [' ', '\x7d', '\x7d']

def size (source : List Char) : Nat :=
  opening.length + (unifyLineEnds source).length + closing.length

/-- The words of an expression with the end of its statement, and the text behind. -/
def words (source : List Char) : List Token × List Char :=
  Token.ofPrint (size source) (unifyLineEnds source ++ closing)

/-- Some faults of words end the reading instead of being reported. -/
def syntaxStop (source : List Char) (f : SyntaxFault) : Stop :=
  match f with
  | .word (.tooManyDigits n) => .abort (.word (.tooManyDigits n))
  | .word (.foreignDigit d) => .abort (.word (.foreignDigit d))
  | _ => .fault (.unreadable (String.ofList source) (some f))

/-- Reads the tree of a text that is not blank. Whatever stands behind a first print statement
keeps the text from being an expression, and is only looked at for a fault to report. -/
def tree (source : List Char) : Outcome Tree :=
  let (ts, rest) := words source
  let behind := Markup.words (size source) rest
  match Tree.statement (ts ++ behind) with
  | .error f => .error (syntaxStop source f)
  | .ok (e, ts) =>
    if rest = [] then .ok e
    else
      match Statement.fault? ts with
      | some f => .error (syntaxStop source f)
      | none => .fault (.unreadable (String.ofList source) none)

/-- Reads an expression. Blanks around it do not matter. -/
def read (text : List Char) : Outcome Expr :=
  let source := trim text
  if source = [] then .fault .emptyExpression
  else do
    let t ← tree source
    match t.toExpr with
    | .ok e => .ok e
    | .error f => .fault f

end Expr

end Daybook
