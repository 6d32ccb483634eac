import Daybook.Expr.Tree

/-!
Checking the statements of a template. They mean nothing here; what matters is whether their
words and their nesting are right, and if not, what is wrong first. Each statement is a function
of the reader for bodies, and that reader is tied to a bound on nesting.
-/

namespace Daybook

namespace Tree

/-- How a message calls a tree that stands where a name should be. -/
def kind : Tree → String
  | .lit _ => "const"
  | .name _ => "name"
  | .sign .minus _ => "neg"
  | .sign .plus _ => "pos"
  | .op .add _ _ => "add"
  | .op .sub _ _ => "sub"
  | .op .mul _ _ => "mul"
  | .op .div _ _ => "div"
  | .op .mod _ _ => "mod"
  | .call .. => "call"
  | .tuple _ => "tuple"
  | .other c => c.text.toLower

mutual

/-- Whether values can be given to a tree: to names, and to tuples of such trees. -/
def assignable : Tree → Bool
  | .name _ => true
  | .tuple ts => allAssignable ts
  | _ => false

def allAssignable : List Tree → Bool
  | [] => true
  | t :: ts => assignable t && allAssignable ts

end

end Tree

namespace Statement

open Daybook.Tree

/-- The names of the open statements, and the names that may close each open body. The
innermost ones come first. -/
structure Nesting where
  tags : List String := []
  closers : List (List String) := []

/-- Reads a part and says whether it is blank text only. -/
abbrev Check := Reader Bool

/-! ### Words -/

def whole : Reader Tree := fun ts => expression (ts.length + 1) ts

/-- An expression without a condition behind it, or several with commas between them. -/
def unconditional : Reader Tree := fun ts =>
  oneOrTuple (disjunction (expression (ts.length + 1))) false ts

def expectBlockEnd : List Token → Except SyntaxFault (List Token)
  | .blockEnd :: rest => do
    meet rest
    pure rest
  | ts => .error (due (Token.shown (some .blockEnd)) ts)

def expectWord (w : String) (ts : List Token) : Except SyntaxFault (List Token) :=
  if atName w ts then next ts else .error (due w ts)

def skipWord (w : String) (ts : List Token) : Except SyntaxFault (List Token) :=
  if atName w ts then next ts else .ok ts

def atBlockEnd : List Token → Bool
  | .blockEnd :: _ => true
  | _ => false

/-- Skips two words, if the first is one of the given names and the second follows it. -/
def skipPair (firsts : List String) (second : String) : List Token → Except SyntaxFault (List Token)
  | .name w :: rest =>
    if w ∈ firsts then do
      meet rest
      if atName second rest then next rest else pure (.name w :: rest)
    else .ok (.name w :: rest)
  | ts => .ok ts

/-! ### Targets -/

/-- A name, or a name with a point and an attribute. -/
def reference : Reader Tree
  | .name w :: rest => do
    meet rest
    if (constant? w).isNone && atSymbol .dot rest then
      let rest ← next rest
      let (_, rest) ← expectName rest
      pure (.name w, rest)
    else pure (ofName w, rest)
  | ts => primary whole ts

def target (item : Reader Tree) (ts : List Token) : Except SyntaxFault (List Token) := do
  let (t, ts) ← oneOrTuple item false ts
  if t.assignable then pure ts else throw (.notAssignable t.kind)

/-- A single name that a value is given to. -/
def targetName : Reader String := fun ts => do
  let (w, ts) ← expectName ts
  if (constant? w).isSome then throw (.notAssignable "name")
  pure (w, ts)

/-- The names of arguments up to the closing parenthesis, some with a value. After a value all
have one. -/
def parameters : Nat → Bool → Bool → List Token → Except SyntaxFault (List Token)
  | 0, _, _, ts => .ok ts
  | n + 1, first, valued, ts =>
    if atSymbol .rparen ts then .ok ts
    else do
      let ts ← if first then pure ts else expect .comma ts
      let (_, ts) ← targetName ts
      if atSymbol .assign ts then
        let ts ← next ts
        let (_, ts) ← whole ts
        parameters n false true ts
      else
        if valued then throw .plainAfterDefault
        parameters n false valued ts

def signature (ts : List Token) : Except SyntaxFault (List Token) := do
  let ts ← expect .lparen ts
  let ts ← parameters (ts.length + 1) true false ts
  expect .rparen ts

/-! ### Statements without a body -/

def extendsTag : Check := fun ts => do
  let (_, ts) ← whole ts
  pure (false, ts)

def includeTag : Check := fun ts => do
  let (_, ts) ← whole ts
  let ts ← skipPair ["ignore"] "missing" ts
  let ts ← skipPair ["with", "without"] "context" ts
  pure (false, ts)

def importTag : Check := fun ts => do
  let (_, ts) ← whole ts
  let ts ← expectWord "as" ts
  let (_, ts) ← targetName ts
  let ts ← skipPair ["with", "without"] "context" ts
  pure (false, ts)

/-- Whether a word is the first of the two that end a list of imported names. It may stand there
as a string. -/
def beginsContext : Token → Bool
  | .name w => w == "with" || w == "without"
  | .text s => s == ("with" : Points) || s == ("without" : Points)
  | _ => false

/-- The two words that end a list of imported names, if they come next. -/
def contextPair? : List Token → Except SyntaxFault (Option (List Token))
  | t :: rest =>
    if beginsContext t then do
      meet rest
      if atName "context" rest then some <$> next rest else pure none
    else .ok none
  | [] => .ok none

def importedNames : Nat → Bool → List Token → Except SyntaxFault (List Token)
  | 0, _, ts => .ok ts
  | n + 1, first, ts => do
    let ts ← if first then pure ts else expect .comma ts
    match ts with
    | .name _ :: _ =>
      match ← contextPair? ts with
      | some ts => pure ts
      | none =>
        let (w, ts) ← targetName ts
        if w.toList.head? = some '_' then throw .hiddenImport
        let ts ← if atName "as" ts then (do return (← targetName (← next ts)).2) else pure ts
        match ← contextPair? ts with
        | some ts => pure ts
        | none => if atSymbol .comma ts then importedNames n false ts else pure ts
    | _ => throw (due "name" ts)

def fromTag : Check := fun ts => do
  let (_, ts) ← whole ts
  let ts ← expectWord "import" ts
  let ts ← importedNames (ts.length + 1) true ts
  pure (false, ts)

/-- Expressions up to the end of the statement. -/
def printed : Nat → Bool → List Token → Except SyntaxFault (List Token)
  | 0, _, ts => .ok ts
  | n + 1, first, ts =>
    if atBlockEnd ts then .ok ts
    else do
      let ts ← if first then pure ts else expect .comma ts
      let (_, ts) ← whole ts
      printed n false ts

/-- A print statement in words; one that prints nothing counts as blank. -/
def printTag : Check := fun ts => do
  let rest ← printed (ts.length + 1) true ts
  pure (atBlockEnd ts, rest)

/-! ### Statements with a body -/

variable (body : Nesting → List String → Check)

/-- The end of a tag, after which a colon is allowed, and the body up to a name that closes it. -/
def bodyUntil (place : Nesting) (closers : List String) : Check := fun ts => do
  let ts ← if atSymbol .colon ts then next ts else pure ts
  let ts ← expectBlockEnd ts
  let (blank, ts) ← body place closers ts
  if ts.isEmpty then throw (.openBody closers place.tags.head?)
  pure (blank, ts)

/-- A body with the one name that closes it. -/
def bodyClosed (place : Nesting) (closer : String) : Check := fun ts => do
  let (blank, ts) ← bodyUntil body place [closer] ts
  let ts ← next ts
  pure (blank, ts)

/-- A last body, for a statement that is no blank text. -/
def lastBody (place : Nesting) (closer : String) : Check := fun ts => do
  let (_, ts) ← bodyClosed body place closer ts
  pure (false, ts)

def forTag (place : Nesting) : Check := fun ts => do
  let ts ← target (primary whole) ts
  let ts ← expectWord "in" ts
  let (_, ts) ← unconditional ts
  let ts ← if atName "if" ts then (do return (← whole (← next ts)).2) else pure ts
  let ts ← skipWord "recursive" ts
  let (_, ts) ← bodyUntil body place ["endfor", "else"] ts
  let rest ← next ts
  if atName "endfor" ts then pure (false, rest) else lastBody body place "endfor" rest

/-- Conditions with their bodies, after the first `if` or a later `elif`. -/
def branches (place : Nesting) : Nat → Check
  | 0, ts => .ok (false, ts)
  | n + 1, ts => do
    let (_, ts) ← unconditional ts
    let (_, ts) ← bodyUntil body place ["elif", "else", "endif"] ts
    let rest ← next ts
    if atName "elif" ts then branches place n rest
    else if atName "else" ts then lastBody body place "endif" rest
    else pure (false, rest)

def ifTag (place : Nesting) : Check := fun ts => branches body place (ts.length + 1) ts

def setTag (place : Nesting) : Check := fun ts => do
  let ts ← target reference ts
  if atSymbol .assign ts then
    let ts ← next ts
    let (_, ts) ← oneOrTuple (expression (ts.length + 1)) false ts
    pure (false, ts)
  else
    let (_, ts) ← repeated (pipeStep whole) ts.length (.name "") ts
    lastBody body place "endset" ts

/-- Targets with their values up to the end of the tag. -/
def bindings : Nat → Bool → List Token → Except SyntaxFault (List Token)
  | 0, _, ts => .ok ts
  | n + 1, first, ts =>
    if atBlockEnd ts then .ok ts
    else do
      let ts ← if first then pure ts else expect .comma ts
      let ts ← target (primary whole) ts
      let ts ← expect .assign ts
      let (_, ts) ← whole ts
      bindings n false ts

def withTag (place : Nesting) : Check := fun ts => do
  let ts ← bindings (ts.length + 1) true ts
  lastBody body place "endwith" ts

def autoescapeTag (place : Nesting) : Check := fun ts => do
  let (_, ts) ← whole ts
  lastBody body place "endautoescape" ts

/-- A named block, which may be said to be filled in elsewhere. Then it is blank here. -/
def blockTag (place : Nesting) : Check := fun ts => do
  let (w, ts) ← expectName ts
  let ts ← skipWord "scoped" ts
  let required := atName "required" ts
  let ts ← skipWord "required" ts
  if atSymbol .sub ts then throw .hyphenInName
  let (blank, ts) ← bodyClosed body place "endblock" ts
  if required && !blank then throw .contentInRequired
  let ts ← skipWord w ts
  pure (false, ts)

def macroTag (place : Nesting) : Check := fun ts => do
  let (_, ts) ← targetName ts
  let ts ← signature ts
  lastBody body place "endmacro" ts

def callTag (place : Nesting) : Check := fun ts => do
  let ts ← if atSymbol .lparen ts then signature ts else pure ts
  let (e, ts) ← whole ts
  match e with
  | .call .. => lastBody body place "endcall" ts
  | _ => throw .noCall

def filterTag (place : Nesting) : Check := fun ts => do
  let (e, ts) ← filter whole ts
  let (_, ts) ← repeated (pipeStep whole) ts.length e ts
  lastBody body place "endfilter" ts

/-- The statement that a tag begins. -/
def tag? (w : String) : Option (Nesting → Check) :=
  match w with
  | "for" => some (forTag body)
  | "if" => some (ifTag body)
  | "block" => some (blockTag body)
  | "extends" => some fun _ => extendsTag
  | "print" => some fun _ => printTag
  | "macro" => some (macroTag body)
  | "include" => some fun _ => includeTag
  | "from" => some fun _ => fromTag
  | "import" => some fun _ => importTag
  | "set" => some (setTag body)
  | "with" => some (withTag body)
  | "autoescape" => some (autoescapeTag body)
  | "call" => some (callTag body)
  | "filter" => some (filterTag body)
  | _ => none

/-- A statement from its tag to its end, the last closing of a tag left out. -/
def read (place : Nesting) : Check
  | .name w :: rest =>
    match tag? body w with
    | some check => do
      meet rest
      check { place with tags := w :: place.tags } rest
    | none => .error (.strayTag w (place.closers.any (w ∈ ·)) (place.closers.head?.getD [])
        place.tags.head?)
  | _ => .error .noTag

/-! ### Templates -/

/-- Text and statements, up to a tag that closes the innermost body or to the end. The first
number bounds the parts. -/
def parts (statement : Check) (closers : List String) : Nat → Bool → Check
  | 0, blank, ts => .ok (blank, ts)
  | n + 1, blank, .data b :: rest => do
    meet rest
    parts statement closers n (blank && b) rest
  | n + 1, _, .printBegin :: rest => do
    let (_, ts) ← Tree.statement rest
    parts statement closers n false ts
  | n + 1, blank, .blockBegin :: rest => do
    meet rest
    if closers.any (atName · rest) then pure (blank, rest)
    else
      let (b, ts) ← statement rest
      let ts ← expectBlockEnd ts
      parts statement closers n (blank && b) ts
  | _ + 1, blank, ts => .ok (blank, ts)

/-- A statement with at most the given number of bodies inside one another. -/
def nested : Nat → Nesting → Check
  | 0, _ => fun _ => .error .tooDeep
  | n + 1, place =>
    read (fun place closers ts =>
      let place := { place with closers := closers :: place.closers }
      parts (nested n place) closers (ts.length + 1) true ts) place

/-- The first fault in a template. -/
def fault? (ts : List Token) : Option SyntaxFault :=
  match meet ts, parts (nested (ts.length + 1) {}) [] (ts.length + 1) true ts with
  | .error f, _ | _, .error f => some f
  | _, _ => none

end Statement

end Daybook
