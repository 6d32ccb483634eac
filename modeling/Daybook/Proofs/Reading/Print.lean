import Daybook.Expr.Read
import Daybook.Number.Shortest
import Daybook.Proofs.Evaluation.Basic

/-!
Printing an expression. Sums bind weaker than products, these weaker than signs, and operators
of one level group to the left; a part gets parentheses only where it binds too weakly for its
place. Between two words there are blanks, as many and as different as one likes.
-/

namespace Daybook

open Text

/-! ### Words -/

def Operator.symbol : Operator → Symbol
  | .add => .add
  | .sub => .sub
  | .mul => .mul
  | .div => .div
  | .mod => .mod

def Sign.symbol : Sign → Symbol
  | .minus => .sub
  | .plus => .add

def Literal.token : Literal → Token
  | .int n => .int n
  | .float x => .float x
  | .bool b => .name (if b then "true" else "false")
  | .text s => .text s
  | .none => .name "none"

/-- How tight an operator binds. -/
def Operator.level : Operator → ℕ
  | .add | .sub => 0
  | .mul | .div | .mod => 1

namespace Expr

/-- How tight an expression holds together. -/
def level : Expr → ℕ
  | .binary o _ _ => o.level
  | .unary _ _ => 2
  | _ => 3

/-- Words in parentheses, if they bind too weakly for their place. -/
def bracketed (weak : Bool) (ts : List Token) : List Token :=
  if weak then .symbol .lparen :: (ts ++ [.symbol .rparen]) else ts

mutual

/-- The words of an expression. -/
def tokens : Expr → List Token
  | .lit l => [l.token]
  | .name w => [.name w]
  | .unary s e => .symbol s.symbol :: bracketed (level e < 2) (tokens e)
  | .binary o a b =>
    bracketed (level a < o.level) (tokens a) ++
      .symbol o.symbol :: bracketed (level b < o.level + 1) (tokens b)
  | .call f args => .name f :: .symbol .lparen :: (argTokens true args ++ [.symbol .rparen])

/-- The words of arguments; every argument but the first one stands behind a comma. -/
def argTokens : Bool → List Expr → List Token
  | _, [] => []
  | first, e :: es =>
    (if first then [] else [.symbol .comma]) ++ (tokens e ++ argTokens false es)

end

/-- The words of an expression in a place that asks for the given level. -/
def tokensAt (k : ℕ) (e : Expr) : List Token := bracketed (level e < k) (tokens e)

end Expr

/-- How a word is written. -/
def Token.spelling : Token → List Char
  | .name s => s.toList
  | .int n => natDigits n
  | .float x => Number.chars x
  | .symbol s => s.text.toList
  | _ => []

/-- The text of words with blanks between any two of them. -/
inductive Spaced : List Token → List Char → Prop
  | last (t : Token) : Spaced [t] t.spelling
  | cons (t : Token) {ts : List Token} {gap cs : List Char} : gap ≠ [] →
      (∀ c ∈ gap, isBlank c = true) → Spaced ts cs → Spaced (t :: ts) (t.spelling ++ (gap ++ cs))

/-! ### Expressions that can be printed -/

/-- Names with a meaning of their own. -/
def reservedNames : List String := ["true", "false", "True", "False", "none", "None", "not", "and",
  "or", "if", "else", "in", "is"]

/-- An identifier that is found whole: it has no mark younger than the pattern of names. -/
structure IsWord (w : String) : Prop where
  identifier : isIdentifier w.toList = true
  found : w.toList.all isNameChar = true

/-- A word that is free to be a name. -/
structure IsName (w : String) : Prop extends IsWord w where
  free : w ∉ reservedNames

/-- A number that is written without a sign and is the double nearest to what is written. -/
structure Reads (x : Float) : Prop where
  unsigned : ∃ m e, Number.parts x = .finite false m e
  reads : Number.ofText? (Number.chars x) = some x

/-- Expressions that have a text of their own. -/
inductive Expr.Printable : Expr → Prop
  | int {n : ℕ} : (natDigits n).length ≤ Number.digitLimit → Printable (.lit (.int n))
  | float {x : Float} : Reads x → Printable (.lit (.float x))
  | bool {b : Bool} : Printable (.lit (.bool b))
  | none : Printable (.lit .none)
  | name {w : String} : IsName w → Printable (.name w)
  | unary {s : Sign} {e : Expr} : Printable e → Printable (.unary s e)
  | binary {o : Operator} {a b : Expr} : Printable a → Printable b → Printable (.binary o a b)
  | call {f : String} {args : List Expr} : IsName f → (∀ e ∈ args, Printable e) →
      Printable (.call f args)

def printedSymbols : List Symbol := [.add, .sub, .mul, .div, .mod, .lparen, .rparen, .comma]

/-- The words that a printed expression may hold. -/
inductive Token.Printed : Token → Prop
  | int {n : ℕ} : (natDigits n).length ≤ Number.digitLimit → Printed (.int n)
  | float {x : Float} : Reads x → Printed (.float x)
  | name {w : String} : IsWord w → Printed (.name w)
  | symbol {s : Symbol} : s ∈ printedSymbols → Printed (.symbol s)

end Daybook
