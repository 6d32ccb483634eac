import Daybook.Value

/-!
Functions that make a series of another one: bringing its values into the unit range, and
giving its absent days a value.
-/

namespace Daybook

inductive Reshape
  | normalize
  | setMissing
  deriving DecidableEq, Repr

namespace Reshape

def text : Reshape → String
  | normalize => "normalize"
  | setMissing => "setMissingValues"

def ofName? (name : String) : Option Reshape := [normalize, setMissing].find? (·.text == name)

/-- Brings the values into the range from 0 to 1. There have to be two different ones. -/
def normalized (s : Series) : Except Fault Value :=
  match s.stats.least, s.stats.greatest with
  | some lo, some hi =>
    if hi ≤ lo then .error (.noRange normalize.text)
    else
      let span := hi - lo
      .ok (s.mapPresent fun x => (x - lo) / span).asValue
  | _, _ => .error (.noRange normalize.text)

/-- A derived series whose absent days have the given value. -/
def filled (s : Series) (x : Float) : Series :=
  s.derive (s.entries.map fun e => { e with value := some (e.value.getD x) })

/-- Applies a function to a series and further arguments. -/
def of (r : Reshape) (s : Series) (args : List Operand) : Except Fault Value :=
  match r with
  | normalize => normalized s
  | setMissing =>
    match args with
    | .ok (.number x) :: _ =>
      if Number.isFinite x then .ok (filled s x).asValue
      else .error (.invalidArguments setMissing.text)
    | _ => .error (.invalidArguments setMissing.text)

end Reshape

end Daybook
