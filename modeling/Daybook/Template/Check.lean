import Daybook.Template.Render

/-!
Checking a template before it is used: its size, its delimiters, and whether its placeholders
can be read and evaluated.
-/

namespace Daybook

open Text

/-- An error found in the text of a template. -/
inductive LintError
  | tooLarge (length limit : Int)
  | unbalanced (opened closed : Nat)
  deriving DecidableEq, Repr

def LintError.message : LintError → String
  | tooLarge n m => "Template is too large (" ++ intText n ++ " chars). Max allowed: " ++
      intText m ++ "."
  | unbalanced o c => "Template has " ++ natText o ++ " '\x7b\x7b' but " ++ natText c ++
      " '\x7d\x7d' delimiter(s)."

/-- What the lint has to say of a text. -/
structure Lint where
  errors : List LintError
  /-- Pairs of delimiters that hold no placeholder. -/
  unmatched : Nat
  deriving DecidableEq, Repr

namespace Lint

def opened (cs : List Char) : Nat := countPair '\x7b' '\x7b' cs

def closed (cs : List Char) : Nat := countPair '\x7d' '\x7d' cs

/-- The size of a template that is allowed unless something else is said. -/
def defaultLimit : Int := 16000

def of (limit : Int) (cs : List Char) : Lint where
  errors :=
    (if limit < cs.length then [.tooLarge cs.length limit] else []) ++
      if opened cs = closed cs then [] else [.unbalanced (opened cs) (closed cs)]
  unmatched := min (opened cs) (closed cs) - (Placeholder.all cs).length

def warnings (l : Lint) : List String :=
  if l.unmatched = 0 then []
  else ["Template has " ++ natText l.unmatched ++ " placeholder(s) with unsupported characters; " ++
    "they will be left as plain text."]

def errorTexts (l : Lint) : List String := l.errors.map (·.message)

end Lint

/-- What the check of one placeholder has found. -/
inductive Finding
  | fine
  | fault (source : List Char) (f : Fault)
  | notWritten (source : List Char) (kind : ValueClass)

structure Validation where
  errors : List String
  warnings : List String
  placeholders : List (List Char)

def Validation.isValid (v : Validation) : Bool := v.errors.isEmpty

namespace Template

/-- Checks one placeholder; without a registry it is read but not evaluated. -/
def inspectOne (r : Option Registry) (c : Context) (p : Placeholder) : Except Abort Finding :=
  match Expr.read p.expression with
  | .error (.fault f) => .ok (.fault p.source f)
  | .error (.abort a) => .error a
  | .ok e =>
    match r with
    | none => .ok .fine
    | some r =>
      match Expr.evaluate r c e with
      | .error (.fault f) => .ok (.fault p.source f)
      | .error (.abort a) => .error a
      | .ok v => .ok (if v.isScalar then .fine else .notWritten p.source v.kind)

def inspectAll (r : Option Registry) (c : Context) (ps : List Placeholder) :
    Except Abort (List Finding) :=
  ps.mapM (inspectOne r c)

def Finding.error? : Finding → Option String
  | .fault s f => some (String.ofList s ++ ": " ++ f.message)
  | _ => none

def Finding.warning? : Finding → Option String
  | .notWritten s k => some (String.ofList s ++ " evaluates to a " ++ k.text ++
      " and will not be substituted.")
  | _ => none

/-- Checks a template. Placeholders are looked at only if the text has no error by itself. -/
def validate (r : Option Registry) (c : Context) (limit : Int) (text : List Char) :
    Except Abort Validation := do
  let lint := Lint.of limit text
  let found := Placeholder.find text
  let placeholders := found.map (·.source)
  if lint.errors ≠ [] then
    return { errors := lint.errorTexts, warnings := lint.warnings, placeholders }
  let findings ← inspectAll r c found
  let unchecked := match r with
    | none => ["No series registry was provided for runtime validation."]
    | some _ => []
  return {
    errors := findings.filterMap Finding.error?
    warnings := lint.warnings ++ findings.filterMap Finding.warning? ++ unchecked
    placeholders }

/-- A validation and, if the template is valid, what it renders to. -/
def validateAndRender (r : Registry) (c : Context) (limit : Int) (text : List Char) :
    Except Abort (Validation × Option (Except Fault (List Char))) := do
  let v ← validate (some r) c limit text
  if !v.isValid then return (v, none)
  match (render r c text).2 with
  | .ok cs => return (v, some (.ok cs))
  | .error (.fault f) => return (v, some (.error f))
  | .error (.abort a) => throw a

end Template

end Daybook
