import Daybook.Expr.Basic
import Daybook.Expr.Tree
import Daybook.Format.Directive
import Daybook.Number.Places

/-!
Faults are results of an evaluation: each has a kind and a message, and it takes the place of a
value. An abort is no result; it ends an evaluation because a number or a day is out of range.
-/

namespace Daybook

open Text

/-- The classes of values that messages tell apart. -/
inductive ValueClass
  | dataset
  | date
  | number
  | boolean
  | string
  | none
  deriving DecidableEq, Repr

def ValueClass.text : ValueClass → String
  | dataset => "dataset"
  | date => "date"
  | number => "number"
  | boolean => "boolean"
  | string => "string"
  | none => "none"

/-- Which end of which run of days is missing. -/
inductive RunEnd
  | streakStart
  | streakEnd
  | breakStart
  | breakEnd
  | currentStreakStart
  | currentStreakEnd
  | currentBreakStart
  | currentBreakEnd
  deriving DecidableEq, Repr

def RunEnd.message : RunEnd → String
  | streakStart => "No streak found, no start found"
  | streakEnd => "No streak found, no end found"
  | breakStart => "No break found, no start found"
  | breakEnd => "No break found, no end found"
  | currentStreakStart => "Current streak is broken, no start found"
  | currentStreakEnd => "Current streak is broken, no end found"
  | currentBreakStart => "No current break, no start found"
  | currentBreakEnd => "No current break, no end found"

/-- Which figure a series has not enough data for. -/
inductive Lack
  | least
  | greatest
  | leastDate
  | greatestDate
  | startDate
  | endDate
  | median
  | variance
  deriving DecidableEq, Repr

def Lack.message : Lack → String
  | least => "Min value not found"
  | greatest => "Max value not found"
  | leastDate => "Min date not found"
  | greatestDate => "Max date not found"
  | startDate => "Start date not found"
  | endDate => "End date not found"
  | median => "Median not found, dataset has no values"
  | variance => "Variance needs at least two values"

inductive FaultKind
  | parse
  | unknownFunction
  | deprecatedFunction
  | type
  | divideByZero
  | invalidRange
  | noDataset
  | noStreakOrBreak
  | alignment
  | noData
  | format
  | unresolved
  deriving DecidableEq, Repr

def FaultKind.text : FaultKind → String
  | parse => "parse_error"
  | unknownFunction => "unknown_function"
  | deprecatedFunction => "deprecated_function"
  | type => "type_error"
  | divideByZero => "divide_by_zero"
  | invalidRange => "invalid_range"
  | noDataset => "no_dataset"
  | noStreakOrBreak => "no_streak_or_break"
  | alignment => "alignment"
  | noData => "no_data"
  | format => "format_error"
  | unresolved => "unresolved"

inductive Fault
  | emptyExpression
  /-- The text, stripped of blanks, is no single expression; the cause may be a fault of syntax. -/
  | unreadable (source : String) (cause : Option SyntaxFault)
  | unsupported (construct : Construct)
  | namelessCall
  | positionalOnly (function : String)
  | unknownFunction (name : String)
  /-- A function is named and not called. -/
  | bareName (name : String)
  | retired (function : String)
  | invalidOperand
  | noOperation (operator : String)
  | datasetArgument
  | tooManyArguments (function : String)
  | datasetMissing (function : String)
  | datasetExpected (function : String) (got : ValueClass)
  | invalidArguments (function : String)
  | divisionByZero
  | noRange (function : String)
  | noSuchDataset (id : Float)
  | noDefaultDataset (function : String)
  | noRun (which : RunEnd)
  | unaligned (op : Operator)
  | noData (what : Lack)
  | badFormat (format : String) (cause : Format.Fault)
  | unresolved
  deriving DecidableEq

namespace Fault

def kind : Fault → FaultKind
  | emptyExpression | unreadable .. | unsupported _ | namelessCall | positionalOnly _ => .parse
  | unknownFunction _ | bareName _ => .unknownFunction
  | retired _ => .deprecatedFunction
  | invalidOperand | noOperation _ | datasetArgument | tooManyArguments _ | datasetMissing _
  | datasetExpected .. | invalidArguments _ => .type
  | divisionByZero => .divideByZero
  | noRange _ => .invalidRange
  | noSuchDataset _ | noDefaultDataset _ => .noDataset
  | noRun _ => .noStreakOrBreak
  | unaligned _ => .alignment
  | noData _ => .noData
  | badFormat .. => .format
  | unresolved => .unresolved

def message : Fault → String
  | emptyExpression => "Empty expression"
  | unreadable s none => "Failed to parse expression '" ++ s ++ "'"
  | unreadable s (some f) =>
    "Failed to parse expression '" ++ s ++ "': " ++ String.ofList f.message
  | unsupported c => "Unsupported syntax '" ++ c.text ++ "' in expression"
  | namelessCall => "Only named functions can be called"
  | positionalOnly f => "Function '" ++ f ++ "' accepts positional arguments only"
  | unknownFunction f => "Unknown function '" ++ f ++ "'"
  | bareName f => "Deprecated template variable '" ++ f ++ "', use '" ++ f ++ "()' instead"
  | retired f => "Function '" ++ f ++ "' has been deprecated"
  | invalidOperand => "Invalid operand, expected a number, date or dataset"
  | noOperation o => "Unknown operation for '" ++ o ++ "'"
  | datasetArgument => "Function 'dataset' expects exactly one numeric id"
  | tooManyArguments f => "Too many arguments for function '" ++ f ++ "'"
  | datasetMissing f => "Function '" ++ f ++ "' expects a dataset argument"
  | datasetExpected f c => "Function '" ++ f ++ "' expects a dataset argument, got " ++ c.text
  | invalidArguments f => "invalid arguments for function '" ++ f ++ "'"
  | divisionByZero => "Division by zero in expression"
  | noRange f => "invalid data range for function '" ++ f ++ "'"
  | noSuchDataset id =>
    "No dataset found for id '" ++ String.ofList (Number.styled .general false 6 id) ++ "'"
  | noDefaultDataset f => "No dataset found for function '" ++ f ++ "'"
  | noRun r => r.message
  | unaligned o => "Datasets combined with '" ++ o.text ++ "' must share the same dates"
  | noData l => l.message
  | badFormat f c => "Invalid number format '" ++ f ++ "': " ++ String.ofList c.message
  | unresolved => "failed to resolve value"

def report (f : Fault) : String := "Error: " ++ f.message

end Fault

/-- Why there is no result at all. -/
inductive Abort
  | intTooLarge
  | quotientTooLarge
  | pastCalendar
  | word (fault : WordFault)
  deriving DecidableEq, Repr

def Abort.message : Abort → String
  | intTooLarge => "int too large to convert to float"
  | quotientTooLarge => "integer division result too large for a float"
  | pastCalendar => "date value out of range"
  | word f => String.ofList f.message

/-- Why an evaluation has no value. -/
inductive Stop
  | fault (f : Fault)
  | abort (a : Abort)
  deriving DecidableEq

abbrev Outcome (α : Type) := Except Stop α

def Outcome.fault {α : Type} (f : Fault) : Outcome α := .error (.fault f)

def Outcome.abort {α : Type} (a : Abort) : Outcome α := .error (.abort a)

end Daybook
