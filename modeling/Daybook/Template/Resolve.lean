import Daybook.Expr.Evaluate
import Daybook.Expr.Read
import Daybook.Template.Placeholder

/-!
Resolving the placeholders of a template: each different one is read and evaluated once, in
order; the first fault ends the work. A log tells every call and what became of each
placeholder.
-/

namespace Daybook

open Text

/-- A placeholder with its value, a number or a moment. -/
structure Resolved where
  source : List Char
  value : Scalar
  format : Option (List Char)

inductive Level
  | debug
  | warning
  deriving DecidableEq, Repr

def Level.text : Level → String
  | debug => "DEBUG"
  | warning => "WARNING"

/-- One line of the log. -/
inductive Note
  | call (c : CallNote)
  | failed (source : List Char) (fault : Fault)
  | skipped (source : List Char) (kind : ValueClass)
  | resolved (source : List Char) (value : Scalar)

namespace Note

/-- Parts of a day or an instant as a constructor call, without zero parts at its end. -/
def momentCall (m : Moment) : List Char :=
  let d := m.date
  let date := natDigits d.year ++ ", ".toList ++ natDigits d.month ++ ", ".toList ++ natDigits d.day
  match m with
  | .day _ => "datetime.date(".toList ++ date ++ [')']
  | .instant _ t =>
    let part := fun n => ", ".toList ++ natDigits n
    "datetime.datetime(".toList ++ date ++ part t.hour ++ part t.minute ++
      (if t.second.val = 0 ∧ t.micro.val = 0 then [] else part t.second) ++
      (if t.micro.val = 0 then [] else part t.micro) ++ [')']

def valueText : Scalar → String
  | .number x => Number.text x
  | .moment m => String.ofList (momentCall m)

def level : Note → Level
  | skipped .. => .warning
  | _ => .debug

def text : Note → String
  | call c => c.text
  | failed s f => "Placeholder " ++ String.ofList s ++ " failed: " ++ f.message
  | skipped s k => "Placeholder " ++ String.ofList s ++ " evaluated to a " ++ k.text ++
      ", which cannot be written into text"
  | resolved s v => "Placeholder " ++ String.ofList s ++ " resolved to " ++ valueText v

end Note

namespace Template

variable (r : Registry) (c : Context)

/-- Resolves one placeholder; nothing comes of a value that is neither number nor moment. -/
def resolveOne (p : Placeholder) : List Note × Outcome (Option Resolved) :=
  match Expr.read p.expression with
  | .error stop => ([], .error stop)
  | .ok e =>
    let (calls, result) := Expr.run r c e
    let notes := calls.map .call
    match result with
    | .error (.fault f) => (notes ++ [.failed p.source f], .fault f)
    | .error (.abort a) => (notes, .abort a)
    | .ok v =>
      match v.scalar? with
      | some x => (notes ++ [.resolved p.source x], .ok (some ⟨p.source, x, p.format⟩))
      | none => (notes ++ [.skipped p.source v.kind], .ok none)

/-- Resolves placeholders in order, up to the first that fails. -/
def resolveAll : List Placeholder → List Note × Outcome (List Resolved)
  | [] => ([], .ok [])
  | p :: ps =>
    match resolveOne r c p with
    | (notes, .error stop) => (notes, .error stop)
    | (notes, .ok found) =>
      match resolveAll ps with
      | (more, .error stop) => (notes ++ more, .error stop)
      | (more, .ok rest) => (notes ++ more, .ok (found.toList ++ rest))

/-- The placeholders of a text with their values, and the log of the work. -/
def resolve (text : List Char) : List Note × Outcome (List Resolved) :=
  resolveAll r c (Placeholder.find text)

end Template

end Daybook
