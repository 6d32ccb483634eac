import Daybook.Expr.Basic
import Daybook.Expr.Token

/-!
Reading words as a tree of the full template language. The levels bind tighter from one to the
next: condition, `or`, `and`, `not`, comparison, sum, join, product, power, sign, then what
follows a value. Each level is a function of the reader for whole expressions in brackets, and
that reader is tied to a bound on nesting.
-/

namespace Daybook

/-- The constructs that the full language has and expressions do not. -/
inductive Construct
  | tuple | list | dict | condition | or | and | not | compare | concat | floorDiv | pow
  | member | item | filter | test
  deriving DecidableEq, Repr

def Construct.text : Construct → String
  | tuple => "Tuple"
  | list => "List"
  | dict => "Dict"
  | condition => "CondExpr"
  | or => "Or"
  | and => "And"
  | not => "Not"
  | compare => "Compare"
  | concat => "Concat"
  | floorDiv => "FloorDiv"
  | pow => "Pow"
  | member => "Getattr"
  | item => "Getitem"
  | filter => "Filter"
  | test => "Test"

/-- What words are read as. Of a construct that is no part of expressions only its kind is
kept. -/
inductive Tree
  | lit (value : Literal)
  | name (id : String)
  | sign (s : Sign) (operand : Tree)
  | op (o : Operator) (left right : Tree)
  /-- A call is plain if all its arguments are positional. -/
  | call (callee : Tree) (args : List Tree) (plain : Bool)
  | tuple (items : List Tree)
  | other (construct : Construct)

namespace Tree

/-- Reads something off the beginning of a list of words. -/
abbrev Reader (α : Type) := List Token → Except SyntaxFault (α × List Token)

/-- Meets the word that comes next: a fault is reported now. -/
def meet : List Token → Except SyntaxFault Unit
  | .fault f :: _ => .error (.word f)
  | _ => .ok ()

/-- The words after the first one, which has been read. -/
def next (ts : List Token) : Except SyntaxFault (List Token) := do
  meet ts.tail
  pure ts.tail

/-- The fault that something else was due here. -/
def due (what : String) (ts : List Token) : SyntaxFault :=
  match ts with
  | [] => .expectedAtEnd what
  | t :: _ => .expected what (Token.shown (some t))

def expect (s : Symbol) : List Token → Except SyntaxFault (List Token)
  | .symbol t :: rest =>
    if t = s then next (.symbol t :: rest) else .error (due s.text (.symbol t :: rest))
  | ts => .error (due s.text ts)

def expectName : Reader String
  | .name s :: rest => do
    meet rest
    pure (s, rest)
  | ts => .error (due "name" ts)

def atSymbol (s : Symbol) : List Token → Bool
  | .symbol t :: _ => t == s
  | _ => false

def atName (w : String) : List Token → Bool
  | .name s :: _ => s == w
  | _ => false

/-- Repeats a step as long as it applies. The number bounds the repetitions. -/
def repeated {α : Type} (step : α → List Token → Option (Except SyntaxFault (α × List Token))) :
    Nat → α → Reader α
  | 0, a, ts => .ok (a, ts)
  | n + 1, a, ts =>
    match step a ts with
    | none => .ok (a, ts)
    | some (.error f) => .error f
    | some (.ok (a, ts)) => repeated step n a ts

/-- A chain of operands of one level that groups to the left. -/
def chain (operand : Reader Tree) (join? : Token → Option (Tree → Tree → Tree)) : Reader Tree :=
  fun ts => do
    let (first, ts) ← operand ts
    repeated (fun left ts =>
      match ts with
      | [] => none
      | t :: rest => (join? t).map fun join => do
        meet rest
        let (right, ts) ← operand rest
        pure (join left right, ts)) ts.length first ts

/-! ### Values -/

/-- The items of a list up to its closing bracket, each followed by a comma or the bracket. -/
def items (item : Reader Unit) (closer : Symbol) : Nat → Bool → List Token →
    Except SyntaxFault (List Token)
  | 0, _, ts => .ok ts
  | n + 1, first, ts =>
    if atSymbol closer ts then .ok ts
    else do
      let ts ← if first then pure ts else expect .comma ts
      if atSymbol closer ts then pure ts
      else
        let (_, ts) ← item ts
        items item closer n false ts

/-- What has been seen of the arguments of a call. -/
structure Args where
  positional : List Tree := []
  named : Bool := false
  star : Bool := false
  doubleStar : Bool := false

def Args.plain (a : Args) : Bool := !a.named && !a.star && !a.doubleStar

variable (whole : Reader Tree)

/-- One argument: positional, named, or a list or dictionary of arguments behind stars. Nothing
positional may follow the others, and each kind of stars stands once. -/
def argument (a : Args) : Reader Args
  | .symbol .mul :: rest => do
    if a.star || a.doubleStar then throw .badArguments
    meet rest
    let (_, ts) ← whole rest
    pure ({ a with star := true }, ts)
  | .symbol .pow :: rest => do
    if a.doubleStar then throw .badArguments
    meet rest
    let (_, ts) ← whole rest
    pure ({ a with doubleStar := true }, ts)
  | .name k :: rest => do
    meet rest
    match rest with
    | .symbol .assign :: rest =>
      if a.doubleStar then throw .badArguments
      meet rest
      let (_, ts) ← whole rest
      pure ({ a with named := true }, ts)
    | _ =>
      if a.named || a.star || a.doubleStar then throw .badArguments
      let (e, ts) ← whole (.name k :: rest)
      pure ({ a with positional := a.positional ++ [e] }, ts)
  | ts => do
    if a.named || a.star || a.doubleStar then throw .badArguments
    let (e, ts) ← whole ts
    pure ({ a with positional := a.positional ++ [e] }, ts)

/-- The arguments up to the closing parenthesis; a comma may stand before it. -/
def arguments : Nat → Bool → Args → Reader Args
  | 0, _, a, ts => .ok (a, ts)
  | n + 1, first, a, ts =>
    if atSymbol .rparen ts then .ok (a, ts)
    else do
      let ts ← if first then pure ts else expect .comma ts
      if !first && atSymbol .rparen ts then pure (a, ts)
      else
        let (a, ts) ← argument whole a ts
        arguments n false a ts

/-- The arguments of a call with their parentheses. -/
def callArgs : Reader Args := fun ts => do
  let ts ← expect .lparen ts
  let (a, ts) ← arguments whole ts.length true {} ts
  let ts ← expect .rparen ts
  pure (a, ts)

def callOf (callee : Tree) : Reader Tree := fun ts => do
  let (a, ts) ← callArgs whole ts
  pure (.call callee a.positional a.plain, ts)

/-- What ends a tuple without being part of it. -/
def endsTuple : List Token → Bool
  | .printEnd :: _ | .blockEnd :: _ | .symbol .rparen :: _ => true
  | _ => false

/-- The expressions of a tuple, with whether a comma was seen. -/
def tupleItems (item : Reader Tree) : Nat → List Tree → Reader (List Tree × Bool)
  | 0, es, ts => .ok ((es, false), ts)
  | n + 1, es, ts => do
    let ts ← if es.isEmpty then pure ts else expect .comma ts
    if endsTuple ts then pure ((es, !es.isEmpty), ts)
    else
      let (e, ts) ← item ts
      if atSymbol .comma ts then tupleItems item n (es ++ [e]) ts
      else pure ((es ++ [e], !es.isEmpty), ts)

/-- Expressions with commas between them, or just one. Nothing at all is a tuple only inside
parentheses. -/
def oneOrTuple (item : Reader Tree) (inParens : Bool) : Reader Tree := fun ts => do
  let ((es, commas), ts) ← tupleItems item (ts.length + 1) [] ts
  match es, commas with
  | [e], false => pure (e, ts)
  | [], _ =>
    if inParens then pure (.tuple [], ts)
    else throw (.noExpression (Token.shown ts.head?))
  | _, _ => pure (.tuple es, ts)

/-- Strings that stand side by side are one string. -/
def strings : List Token → Except SyntaxFault (Points × List Token)
  | .text s :: rest => do
    meet rest
    let (more, ts) ← strings rest
    pure (s ++ more, ts)
  | ts => .ok ([], ts)

/-- The value that a word stands for, if it is no name. -/
def constant? (w : String) : Option Literal :=
  if w = "true" ∨ w = "True" then some (.bool true)
  else if w = "false" ∨ w = "False" then some (.bool false)
  else if w = "none" ∨ w = "None" then some .none
  else none

def ofName (w : String) : Tree :=
  match constant? w with
  | some l => .lit l
  | none => .name w

def pair : Reader Unit := fun ts => do
  let (_, ts) ← whole ts
  let ts ← expect .colon ts
  let (_, ts) ← whole ts
  pure ((), ts)

def primary : Reader Tree
  | .name w :: rest => do
    meet rest
    pure (ofName w, rest)
  | .int n :: rest => do
    meet rest
    pure (.lit (.int n), rest)
  | .float x :: rest => do
    meet rest
    pure (.lit (.float x), rest)
  | .text s :: rest => do
    let (s, ts) ← strings (.text s :: rest)
    pure (.lit (.text s), ts)
  | .symbol .lparen :: rest => do
    meet rest
    let (e, ts) ← oneOrTuple whole true rest
    let ts ← expect .rparen ts
    pure (e, ts)
  | .symbol .lbracket :: rest => do
    meet rest
    let item := fun ts => (fun (_, ts) => ((), ts)) <$> whole ts
    let ts ← items item .rbracket rest.length true rest
    let ts ← expect .rbracket ts
    pure (.other .list, ts)
  | .symbol .lbrace :: rest => do
    meet rest
    let ts ← items (pair whole) .rbrace rest.length true rest
    let ts ← expect .rbrace ts
    pure (.other .dict, ts)
  | ts => .error (.unexpected (Token.shown ts.head?))

/-- Whether an optional part of a slice is left out. -/
def endsSlicePart (ts : List Token) : Bool :=
  atSymbol .colon ts || atSymbol .rbracket ts || atSymbol .comma ts

def slicePart (ts : List Token) : Except SyntaxFault (List Token) :=
  if endsSlicePart ts then .ok ts else (·.2) <$> whole ts

/-- One entry of a subscript: an expression, or a slice with its colons. -/
def subscript : Reader Unit := fun ts => do
  let ts ← if atSymbol .colon ts then pure ts else (·.2) <$> whole ts
  if atSymbol .colon ts then
    let ts ← next ts
    let ts ← slicePart whole ts
    if atSymbol .colon ts then
      let ts ← next ts
      let ts ← if atSymbol .rbracket ts || atSymbol .comma ts then pure ts else (·.2) <$> whole ts
      pure ((), ts)
    else pure ((), ts)
  else pure ((), ts)

/-- The entries of a subscript up to its closing bracket. A comma is followed by an entry. -/
def subscripts : Nat → Bool → List Token → Except SyntaxFault (List Token)
  | 0, _, ts => .ok ts
  | n + 1, first, ts =>
    if atSymbol .rbracket ts then .ok ts
    else do
      let ts ← if first then pure ts else expect .comma ts
      let (_, ts) ← subscript whole ts
      subscripts n false ts

/-- An attribute or an item behind a point. The word after it is met before its kind is
judged. -/
def member (ts : List Token) : Except SyntaxFault (Tree × List Token) := do
  let rest ← next ts
  match ts with
  | .name _ :: _ => pure (.other .member, rest)
  | .int _ :: _ => pure (.other .item, rest)
  | _ => throw .nameOrNumber

/-- One more part behind a value: an attribute, a subscript or a call. -/
def postfixStep (e : Tree) (ts : List Token) : Option (Except SyntaxFault (Tree × List Token)) :=
  match ts with
  | .symbol .dot :: rest => some do
    meet rest
    member rest
  | .symbol .lbracket :: rest => some do
    meet rest
    let ts ← subscripts whole rest.length true rest
    let ts ← expect .rbracket ts
    pure (.other .item, ts)
  | .symbol .lparen :: _ => some (callOf whole e ts)
  | _ => none

def value : Reader Tree := fun ts => do
  let (e, ts) ← primary whole ts
  repeated (postfixStep whole) ts.length e ts

/-- Signs before a value. -/
def signed : Reader Tree
  | .symbol .sub :: rest => do
    meet rest
    let (e, ts) ← signed rest
    pure (.sign .minus e, ts)
  | .symbol .add :: rest => do
    meet rest
    let (e, ts) ← signed rest
    pure (.sign .plus e, ts)
  | ts => value whole ts

/-! ### Filters and tests -/

/-- A name with points in it, after its first part. -/
def dotted : Nat → List Token → Except SyntaxFault (List Token)
  | 0, ts => .ok ts
  | n + 1, ts =>
    if atSymbol .dot ts then do
      let ts ← next ts
      let (_, ts) ← expectName ts
      dotted n ts
    else .ok ts

def dottedName (ts : List Token) : Except SyntaxFault (List Token) := do
  let (_, ts) ← expectName ts
  dotted ts.length ts

/-- A filter, whose name comes next. -/
def filter (ts : List Token) : Except SyntaxFault (Tree × List Token) := do
  let ts ← dottedName ts
  if atSymbol .lparen ts then
    let (_, ts) ← callArgs whole ts
    pure (.other .filter, ts)
  else pure (.other .filter, ts)

/-- Whether a test is followed by an argument without parentheses. -/
def beginsTestArg : List Token → Bool
  | .name w :: _ => w != "else" && w != "or" && w != "and"
  | .text _ :: _ | .int _ :: _ | .float _ :: _ => true
  | .symbol s :: _ => s == .lbracket || s == .lbrace
  | _ => false

def test (ts : List Token) : Except SyntaxFault (Tree × List Token) := do
  let ts ← next ts
  let negated := atName "not" ts
  let ts ← if negated then next ts else pure ts
  let ts ← dottedName ts
  let result : Tree := .other (if negated then .not else .test)
  if atSymbol .lparen ts then
    let (_, ts) ← callArgs whole ts
    pure (result, ts)
  else if beginsTestArg ts then
    if atName "is" ts then throw .chainedTests
    let (_, ts) ← value whole ts
    pure (result, ts)
  else pure (result, ts)

/-- A filter behind a bar. -/
def pipeStep (_ : Tree) (ts : List Token) : Option (Except SyntaxFault (Tree × List Token)) :=
  match ts with
  | .symbol .pipe :: rest => some do
    meet rest
    filter whole rest
  | _ => none

/-- One more filter, test or call behind a value. -/
def filterStep (e : Tree) (ts : List Token) : Option (Except SyntaxFault (Tree × List Token)) :=
  match ts with
  | .symbol .pipe :: _ => pipeStep whole e ts
  | .name w :: _ => if w = "is" then some (test whole ts) else none
  | .symbol .lparen :: _ => some (callOf whole e ts)
  | _ => none

/-- A value with its signs, filters and tests. -/
def unary : Reader Tree := fun ts => do
  let (e, ts) ← signed whole ts
  repeated (filterStep whole) ts.length e ts

/-! ### Operators -/

def power : Reader Tree :=
  chain (unary whole) fun
    | .symbol .pow => some fun _ _ => .other .pow
    | _ => none

def product : Reader Tree :=
  chain (power whole) fun
    | .symbol .mul => some (.op .mul)
    | .symbol .div => some (.op .div)
    | .symbol .mod => some (.op .mod)
    | .symbol .floorDiv => some fun _ _ => .other .floorDiv
    | _ => none

def joined : Reader Tree :=
  chain (product whole) fun
    | .symbol .tilde => some fun _ _ => .other .concat
    | _ => none

def sum : Reader Tree :=
  chain (joined whole) fun
    | .symbol .add => some (.op .add)
    | .symbol .sub => some (.op .sub)
    | _ => none

def isComparison : Symbol → Bool
  | .eq | .ne | .lt | .le | .gt | .ge => true
  | _ => false

/-- One more comparison: an operator, `in`, or `not in`. After `not` one more word is met. -/
def compareStep (_ : Tree) (ts : List Token) : Option (Except SyntaxFault (Tree × List Token)) :=
  let operand := fun rest => do
    meet rest
    let (_, ts) ← sum whole rest
    pure (.other .compare, ts)
  match ts with
  | .symbol s :: rest => if isComparison s then some (operand rest) else none
  | .name w :: rest =>
    if w = "in" then some (operand rest)
    else if w = "not" then
      match rest with
      | .fault f :: _ => some (.error (.word f))
      | .name v :: rest => if v = "in" then some (operand rest) else none
      | _ => none
    else none
  | _ => none

def comparison : Reader Tree := fun ts => do
  let (e, ts) ← sum whole ts
  repeated (compareStep whole) ts.length e ts

def negation : Reader Tree
  | .name w :: rest =>
    if w = "not" then do
      meet rest
      let (_, ts) ← negation rest
      pure (.other .not, ts)
    else comparison whole (.name w :: rest)
  | ts => comparison whole ts

def conjunction : Reader Tree :=
  chain (negation whole) fun
    | .name w => if w = "and" then some fun _ _ => .other .and else none
    | _ => none

def disjunction : Reader Tree :=
  chain (conjunction whole) fun
    | .name w => if w = "or" then some fun _ _ => .other .or else none
    | _ => none

/-- A condition behind a value, with or without an alternative. -/
def conditionStep (_ : Tree) (ts : List Token) : Option (Except SyntaxFault (Tree × List Token)) :=
  if atName "if" ts then some do
    let ts ← next ts
    let (_, ts) ← disjunction whole ts
    if atName "else" ts then
      let ts ← next ts
      let (_, ts) ← whole ts
      pure (.other .condition, ts)
    else pure (.other .condition, ts)
  else none

def conditional : Reader Tree := fun ts => do
  let (e, ts) ← disjunction whole ts
  repeated (conditionStep whole) ts.length e ts

/-- A whole expression, nested at most as deep as the number says. -/
def expression : Nat → Reader Tree
  | 0 => fun _ => .error .tooDeep
  | n + 1 => conditional (expression n)

/-- A print statement after its opening, with its end. -/
def statement : Reader Tree := fun ts => do
  meet ts
  let (e, ts) ← oneOrTuple (expression (ts.length + 1)) false ts
  match ts with
  | .printEnd :: rest =>
    meet rest
    pure (e, rest)
  | _ => throw (due (Token.shown (some .printEnd)) ts)

end Tree

end Daybook
