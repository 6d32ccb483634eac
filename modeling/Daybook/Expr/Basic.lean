import Daybook.Text.Points

/-!
Expressions: literals, names, signs, five binary operators and calls of named functions.
-/

namespace Daybook

inductive Literal
  | int (n : Nat)
  | float (x : Float)
  | bool (b : Bool)
  | text (s : Points)
  | none

inductive Sign
  | minus
  | plus
  deriving DecidableEq, Repr

inductive Operator
  | add
  | sub
  | mul
  | div
  | mod
  deriving DecidableEq, Repr

def Sign.text : Sign → String
  | minus => "-"
  | plus => "+"

def Operator.text : Operator → String
  | add => "+"
  | sub => "-"
  | mul => "*"
  | div => "/"
  | mod => "%"

def Sign.ofText? (s : String) : Option Sign := [minus, plus].find? (·.text == s)

def Operator.ofText? (s : String) : Option Operator :=
  [add, sub, mul, div, mod].find? (·.text == s)

inductive Expr
  | lit (value : Literal)
  | name (id : String)
  | unary (sign : Sign) (operand : Expr)
  | binary (op : Operator) (left right : Expr)
  | call (function : String) (args : List Expr)

end Daybook
