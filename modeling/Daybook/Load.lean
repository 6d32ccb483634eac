import Daybook.Calendar.Iso
import Daybook.Fault
import Daybook.Json.Read
import Daybook.Json.Shown
import Daybook.Registry

/-!
Building a registry from JSON: an object with an axis, given as a list of days or as its first
and last day, and a list of series with an id, values and some options each. Null marks an
absent day.
-/

namespace Daybook

open Text

/-- Why no registry comes of a payload. -/
inductive LoadFault
  /-- The payload is no object. -/
  | noFields (payload : Json)
  | noAxis
  | notText (field : String)
  | notDate (field : String) (raw : Points)
  | noSeries
  | notObject (position : Nat)
  | invalidId (position : Nat)
  | notNumeric (id : Int) (raw : Json)
  /-- The values are given, but they are nothing that has items. -/
  | noItems (raw : Json)
  | wrongLength (id : Int) (values days : Nat)
  | unknownMeasure (raw : Json)
  | series (fault : SeriesFault)
  | abort (cause : Abort)
  /-- The file does not exist or holds no JSON value. -/
  | unreadable (path : String)
  | tooManyDigits (count : Nat)

namespace LoadFault

/-- The three kinds of failures. Only a bad value is expected of a file. -/
inductive Kind
  | badValue
  | badType
  | badObject
  | outOfRange
  deriving DecidableEq, Repr

def kind : LoadFault → Kind
  | noFields _ => .badObject
  | noItems _ => .badType
  | abort _ => .outOfRange
  | _ => .badValue

def message : LoadFault → String
  | noFields j => "'" ++ j.kindName ++ "' object has no attribute 'get'"
  | noAxis => "Series payload needs either 'dates' or 'start_date'/'end_date'"
  | notText f => "'" ++ f ++ "' must be an ISO date string"
  | notDate f raw => "'" ++ f ++ "' is not an ISO date: " ++ String.ofList raw.quoted
  | noSeries => "Series payload needs a 'series' list"
  | notObject n => "Series entry " ++ natText n ++ " must be an object"
  | invalidId n => "Series entry " ++ natText n ++ " has an invalid id"
  | notNumeric id raw => "Series " ++ intText id ++ " has a non-numeric value " ++
      String.ofList raw.shown
  | noItems raw => "'" ++ raw.kindName ++ "' object is not iterable"
  | wrongLength id v d => "Series " ++ intText id ++ " has " ++ natText v ++ " value(s) for " ++
      natText d ++ " date(s)"
  | unknownMeasure raw => "Unknown value_kind " ++ String.ofList raw.shown
  | series f => String.ofList f.message.shape
  | abort a => a.message
  | unreadable p => "Could not read series file " ++ p
  | tooManyDigits n => Abort.message (.word (.tooManyDigits n))

end LoadFault

abbrev Loaded (α : Type) := Except LoadFault α

namespace Load

/-- Reads a day from a field. -/
def day (field : String) : Json → Loaded Date
  | .text s =>
    match Iso.read (trim s.shape) with
    | .ok d => .ok d
    | .error .malformed => .error (.notDate field s)
    | .error .pastCalendar => .error (.abort .pastCalendar)
  | _ => .error (.notText field)

/-- The axis of a payload. A list of days goes before a first and a last day. -/
def axis (fields : List (Points × Json)) : Loaded (List Date) :=
  match Json.lookup "dates" fields with
  | some (.array days) => days.mapM (day "dates")
  | _ =>
    match Json.lookup "start_date" fields, Json.lookup "end_date" fields with
    | some a, some b => do
      let a ← day "start_date" a
      let b ← day "end_date" b
      match Registry.ofRange a b with
      | .ok r => .ok r.axis
      | .error f => .error (.series f)
    | _, _ => .error .noAxis

/-- The double of a number or of a text that reads as one; other values have none. -/
def float? : Json → Loaded (Option Float)
  | .int n =>
    match Number.ofInt? n with
    | some x => .ok (some x)
    | none => .error (.abort .intTooLarge)
  | .float x => .ok (some x)
  | .text s => .ok (Number.ofText? s.shape)
  | _ => .ok none

/-- The whole number next to such a double, if that is finite. -/
def int? (j : Json) : Loaded (Option Int) := do
  return (← float? j).bind Number.round?

/-- The items of what is given as values. A text has its points and an object has keys. -/
def itemsOf : Json → Loaded (List Json)
  | .array xs => .ok xs
  | .text s => .ok (s.map fun p => .text [p])
  | .object fs => .ok (fs.map fun f => .text f.1)
  | j => if j.isGiven then .error (.noItems j) else .ok []

def value (id : Int) : Json → Loaded (Option Float)
  | .null => .ok none
  | raw => do
    match ← float? raw with
    | some x => pure (some x)
    | none => throw (.notNumeric id raw)

def measure : Option Json → Loaded Measure
  | none | some .null => .ok .number
  | some raw =>
    match Measure.ofText? (String.ofList (lower (trim raw.asName.shape))) with
    | some m => .ok m
    | none => .error (.unknownMeasure raw)

/-- The series of one entry on the given axis. -/
def entry (axis : List Date) (position : Nat) : Json → Loaded Series
  | .object fields => do
    let id ← match ← int? ((Json.lookup "id" fields).getD (.int position)) with
      | some id => pure id
      | none => throw (.invalidId position)
    let raw ← itemsOf ((Json.lookup "values" fields).getD .null)
    let values ← raw.mapM (value id)
    if values.length ≠ axis.length then throw (.wrongLength id values.length axis.length)
    let name := match Json.lookup "name" fields with
      | some j => if j.isGiven then j.asName else Registry.defaultName id
      | none => Registry.defaultName id
    let m ← measure (Json.lookup "value_kind" fields)
    let usedAsX := ((Json.lookup "x_axis" fields).map Json.isGiven).getD false
    let targets ← int? ((Json.lookup "target_count" fields).getD .null)
    pure { entries := Series.zipEntries axis values, id, name, measure := m, usedAsX,
           targets := targets.getD 0 }
  | _ => .error (.notObject position)

/-- The series of the entries from the given position on. -/
def entries (axis : List Date) : Nat → List Json → Loaded (List Series)
  | _, [] => .ok []
  | n, j :: js => do
    let s ← entry axis n j
    let ss ← entries axis (n + 1) js
    pure (s :: ss)

/-- Builds a registry from a payload. -/
def registry : Json → Loaded Registry
  | .object fields => do
    let axis ← axis fields
    match Json.lookup "series" fields with
    | some (.array js) => pure { axis, members := ← entries axis 0 js }
    | _ => throw .noSeries
  | j => .error (.noFields j)

/-- Builds a registry from the text of a file, which may not exist. -/
def file (path : String) (text : Option (List Char)) : Loaded Registry :=
  match text with
  | none => .error (.unreadable path)
  | some cs =>
    match Json.read cs with
    | .ok .null => .error (.unreadable path)
    | .ok j => registry j
    | .error .malformed => .error (.unreadable path)
    | .error (.tooManyDigits n) => .error (.tooManyDigits n)

end Load

end Daybook
