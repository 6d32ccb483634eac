import Daybook.Value

/-!
Signs and binary operators. A number goes with every present day of a series; two series go
together day by day and have to share their days. Nothing is ever divided by zero: a zero on any
present day of a divisor is a fault of the whole operation.
-/

namespace Daybook

namespace Operator

/-- What an operator does to two numbers. -/
def compute : Operator → Float → Float → Float
  | add => (· + ·)
  | sub => (· - ·)
  | mul => (· * ·)
  | div => (· / ·)
  | mod => Number.remainder

def divides : Operator → Bool
  | div | mod => true
  | _ => false

end Operator

/-- Whether something can be divided by: a zero cannot, nor a series with a zero in it. -/
def Value.isDivisor : Value → Bool
  | .number x => !(x == 0.0)
  | .series s _ => s.present.all fun x => !(x == 0.0)
  | _ => true

/-- Applies an operator to two values that can be operated on and, if need be, divided by. -/
def Operator.onValues (o : Operator) : Value → Value → Except Fault Value
  | .number x, .number y => .ok (.number (o.compute x y))
  | .number x, .series t _ => .ok (t.mapPresent (o.compute x)).asValue
  | .series s _, .number y => .ok (s.mapPresent fun x => o.compute x y).asValue
  | .series s _, .series t _ =>
    if s.sharesAxis t then .ok (s.zipPresent o.compute t).asValue else .error (.unaligned o)
  | _, _ => .error (.noOperation o.text)

def Operator.apply (o : Operator) (a b : Operand) : Except Fault Value :=
  match a, b with
  | .ok v, .ok w =>
    if !(v.isOperand && w.isOperand) then .error .invalidOperand
    else if o.divides && !w.isDivisor then .error .divisionByZero
    else o.onValues v w
  | _, _ => .error .invalidOperand

def Sign.apply (s : Sign) (a : Operand) : Except Fault Value :=
  match s, a with
  | .minus, .ok (.number x) => .ok (.number (-x))
  | .minus, .ok (.series t _) => .ok (t.mapPresent fun x => -x).asValue
  | .plus, .ok (.number x) => .ok (.number x)
  | .plus, .ok (.series t _) => .ok t.clone.asValue
  | _, _ => .error (.noOperation s.text)

/-- Applies the operator that a text names. -/
def applyBinary (operator : String) (a b : Operand) : Except Fault Value :=
  match Operator.ofText? operator with
  | some o => o.apply a b
  | none => .error (.noOperation operator)

/-- Applies the sign that a text names. -/
def applyUnary (operator : String) (a : Operand) : Except Fault Value :=
  match Sign.ofText? operator with
  | some s => s.apply a
  | none => .error (.noOperation operator)

end Daybook
