import Daybook.Command.Arguments
import Daybook.Load
import Daybook.Settings
import Daybook.Template.Check

/-!
What the command does with a template, settings and the text of a series file: it writes the
rendered text or the value to its output, or errors to its error output.
-/

namespace Daybook.Command

/-- What the command leaves behind. -/
structure Result where
  code : Nat
  output : List Char := []
  errors : List Char := []
  deriving DecidableEq, Repr

/-- Why the command breaks off without a result. -/
inductive Break
  | abort (a : Abort)
  | load (f : LoadFault)
  | noTemplate

def Break.message : Break → String
  | abort a => a.message
  | load f => f.message
  | noTemplate => "'list' object has no attribute 'count'"

def line (s : String) : List Char := s.toList ++ ['\n']

def failed (messages : List String) : Result :=
  { code := 1, errors := messages.flatMap fun m => line ("Error: " ++ m) }

def printed (text : List Char) : Result := { code := 0, output := text ++ ['\n'] }

/-- The settings' defaults, with the date format of the arguments and the ends of the axis for
what is not set. -/
def contextFor (settings : Settings) (args : Arguments) (axis : List Date) : Context :=
  let c := settings.context
  { dateFormat := match args.dateFormat with
      | some f => if f.isEmpty then c.dateFormat else f
      | none => c.dateFormat
    startDate := c.startDate.or axis.head?
    endDate := c.endDate.or axis.getLast? }

/-- Writes one value, a number with six significant digits. -/
def printValue (r : Registry) (c : Context) (template : List Char) : Except Break Result :=
  match (Template.value r c template).2 with
  | .error (.fault f) => .ok (failed [f.message])
  | .error (.abort a) => .error (.abort a)
  | .ok v =>
    match v.write c.dateFormat.toList (match v with
      | .number _ => some ['g']
      | .moment _ => some c.dateFormat.toList) with
    | .ok cs => .ok (printed cs)
    | .error f => .ok (failed [f.message])

/-- Writes the rendered template. -/
def printTemplate (r : Registry) (c : Context) (template : List Char) : Except Break Result :=
  match (Template.render r c template).2 with
  | .error (.fault f) => .ok (failed [f.message])
  | .error (.abort a) => .error (.abort a)
  | .ok cs => .ok (printed cs)

/-- Runs the command on the text of its series file. -/
def run (env : Environment) (args : Arguments) (file : Option (List Char)) : Except Break Result :=
  match Settings.ofEnvironment env with
  | .error a => .error (.abort a)
  | .ok settings =>
    match settings.conflict? with
    | some m => .ok (failed [m])
    | none =>
      match Load.file args.file file with
      | .error f => if f.kind = .badValue then .ok (failed [f.message]) else .error (.load f)
      | .ok r =>
        match args.template with
        | none => .error .noTemplate
        | some template =>
          let template := template.toList
          let lint := Lint.of settings.maxTemplateChars template
          if lint.errors ≠ [] then .ok (failed lint.errorTexts)
          else
            let c := contextFor settings args r.axis
            if args.value then printValue r c template else printTemplate r c template

end Daybook.Command
