import Daybook.Format.Date
import Daybook.Format.Number
import Daybook.Template.Resolve

/-!
Writing values into a template. A value is written by the format of its placeholder or else by
the default of its kind; an empty text leaves the placeholder as it stands.
-/

namespace Daybook

open Text

namespace Format

/-- A format that says something. -/
def given? (format : Option (List Char)) : Option (List Char) :=
  match format with
  | some [] => none
  | f => f

/-- Writes a number by a format, or with one place. -/
def numberText (format : Option (List Char)) (x : Float) : Except Daybook.Fault (List Char) :=
  match given? format with
  | none => .ok (defaultNumber x)
  | some f =>
    match number f x with
    | .ok cs => .ok cs
    | .error e => .error (.badFormat (String.ofList f) e)

/-- Writes a moment by a format, or by the default one. -/
def momentText (format : Option (List Char)) (default : List Char) (m : Moment) : List Char :=
  moment ((given? format).getD default) m

end Format

/-- Writes a value by a format or by the default of its kind. -/
def Scalar.write (default : List Char) (format : Option (List Char)) :
    Scalar → Except Fault (List Char)
  | .number x => Format.numberText format x
  | .moment m => .ok (Format.momentText format default m)

namespace Template

/-- Writes the values one after the other, each over all occurrences of its placeholder in the
text as it is by then. -/
def fill (default : List Char) : List Resolved → List Char → Except Fault (List Char)
  | [], text => .ok text
  | p :: ps, text => do
    let written ← p.value.write default p.format
    fill default ps (if written = [] then text else replaceAll p.source written text)

variable (r : Registry) (c : Context)

/-- The text with the values of its placeholders, and the log of resolving them. -/
def render (text : List Char) : List Note × Outcome (List Char) :=
  match resolve r c text with
  | (notes, .error stop) => (notes, .error stop)
  | (notes, .ok found) => (notes, ofFault (fill c.dateFormat.toList found text))

/-- Digits, perhaps after a minus sign and perhaps with a point and digits behind. -/
def isPlainNumber (cs : List Char) : Bool :=
  let body := match cs with
    | '-' :: rest => rest
    | _ => cs
  let rest := body.dropWhile isDigit
  body.head?.any isDigit &&
    match rest with
    | [] => true
    | '.' :: ds => !ds.isEmpty && ds.all isDigit
    | _ => false

/-- The value of a text: the number that it is, or else that of its first placeholder that has
a number or a moment. -/
def value (text : List Char) : List Note × Outcome Scalar :=
  let text := trim text
  if isPlainNumber text then
    match Number.ofText? text with
    | some x => ([], .ok (.number x))
    | none => ([], .fault .unresolved)
  else
    match resolve r c text with
    | (notes, .error stop) => (notes, .error stop)
    | (notes, .ok []) => (notes, .fault .unresolved)
    | (notes, .ok (p :: _)) => (notes, .ok p.value)

end Template

end Daybook
