import Daybook.Fault
import Daybook.Number.Numeral
import Daybook.Registry

/-!
Values of expressions. Numbers, moments and series take part in operations; flags, texts and
nothing are values only as literals.
-/

namespace Daybook

/-- Where a series comes from: it is a member of the registry, or an operation has made it. -/
inductive Origin
  | member (position : Nat)
  | fresh
  deriving DecidableEq, Repr

inductive Value
  | number (x : Float)
  | moment (m : Moment)
  | series (s : Series) (origin : Origin)
  | flag (b : Bool)
  | text (s : Points)
  | none

/-- A value that can be written into a text. -/
inductive Scalar
  | number (x : Float)
  | moment (m : Moment)
  deriving DecidableEq

/-- What an operation is applied to: a value, or the fault that took its place. -/
abbrev Operand := Except Fault Value

namespace Value

def kind : Value → ValueClass
  | number _ => .number
  | moment _ => .date
  | series _ _ => .dataset
  | flag _ => .boolean
  | text _ => .string
  | none => .none

def isNumber : Value → Bool
  | number _ => true
  | _ => false

def isMoment : Value → Bool
  | moment _ => true
  | _ => false

def isSeries : Value → Bool
  | series _ _ => true
  | _ => false

def isOperand (v : Value) : Bool := v.isNumber || v.isMoment || v.isSeries

/-- Numbers and moments can be written into a text. -/
def scalar? : Value → Option Scalar
  | number x => some (.number x)
  | moment m => some (.moment m)
  | _ => Option.none

def isScalar (v : Value) : Bool := v.scalar?.isSome

def isFiniteNumber : Value → Bool
  | number x => Number.isFinite x
  | _ => false

/-- A number, or a text that reads as one. -/
def asFloat? : Value → Option Float
  | number x => some x
  | text s => Number.ofText? s.shape
  | _ => Option.none

/-- The whole number next to a finite number or to a text that reads as one. -/
def asInt? (v : Value) : Option Int := v.asFloat?.bind Number.round?

/-- The id that a number names, if it is whole. -/
def asSeriesId? : Value → Option Int
  | number x => Number.whole? x
  | _ => Option.none

end Value

def Scalar.toValue : Scalar → Value
  | number x => .number x
  | moment m => .moment m

def Series.asValue (s : Series) : Value := .series s .fresh

namespace Operand

def isOperand : Operand → Bool
  | .ok v => v.isOperand
  | .error _ => false

end Operand

/-- The caller's defaults for an evaluation. -/
structure Context where
  dateFormat : String := "YYYY-MM-DD"
  startDate : Option Date := none
  endDate : Option Date := none
  deriving DecidableEq

end Daybook
