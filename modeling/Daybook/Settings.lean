import Daybook.Calendar.Iso
import Daybook.Text.Upper
import Daybook.Value

/-!
Settings from the environment: formats and default days of an evaluation, the size of templates
and how much is logged. What cannot be read counts as not set.
-/

namespace Daybook

open Text

/-- The texts that an environment gives to names. -/
abbrev Environment := String → Option String

structure Settings where
  dateFormat : String
  startDate : Option Date
  endDate : Option Date
  maxTemplateChars : Int
  logLevel : String

namespace Settings

/-- The first of the names that is set, without blanks around it, or the default. -/
def textOf (env : Environment) (names : List String) (default : String) : List Char :=
  match names.findSome? env with
  | some s => trim s.toList
  | none => default.toList

/-- A text, or the default in place of an empty one. -/
def orDefault (default : String) (cs : List Char) : String :=
  if cs = [] then default else String.ofList cs

/-- A day, if the name is set to a written date. -/
def dayOf (env : Environment) (name : String) : Except Abort (Option Date) :=
  match env name with
  | none => .ok none
  | some s =>
    let cs := trim s.toList
    if cs = [] then .ok none
    else
      match Iso.read cs with
      | .ok d => .ok (some d)
      | .error .malformed => .ok none
      | .error .pastCalendar => .error .pastCalendar

/-- A whole number, brought into the given range. -/
def intOf (env : Environment) (name : String) (default least greatest : Int) : Int :=
  let n := ((env name).bind fun s => Number.intOfText? s.toList).getD default
  min greatest (max least n)

def defaultDateFormat : String := "YYYY-MM-DD"

def ofEnvironment (env : Environment) : Except Abort Settings := do
  let dateFormat := orDefault defaultDateFormat
    (textOf env ["TRACKER_DATE_FORMAT", "DATE_FORMAT"] defaultDateFormat)
  let startDate ← dayOf env "TRACKER_START_DATE"
  let endDate ← dayOf env "TRACKER_END_DATE"
  return {
    dateFormat, startDate, endDate
    maxTemplateChars := intOf env "TRACKER_MAX_TEMPLATE_CHARS" 16000 256 100000
    logLevel := orDefault "INFO" (upper (textOf env ["LOG_LEVEL"] "INFO")) }

/-- What is wrong with settings that contradict each other. -/
def conflict? (s : Settings) : Option String :=
  match s.startDate, s.endDate with
  | some a, some b =>
    if b < a then
      some ("TRACKER_START_DATE must not be after TRACKER_END_DATE (" ++ a.text ++ " > " ++
        b.text ++ ")")
    else none
  | _, _ => none

/-- The defaults that the settings give to an evaluation. -/
def context (s : Settings) : Context where
  dateFormat := if s.dateFormat.isEmpty then defaultDateFormat else s.dateFormat
  startDate := s.startDate
  endDate := s.endDate

end Settings

end Daybook
