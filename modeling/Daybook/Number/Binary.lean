import Daybook.Number.Power

/-!
Doubles as exact numbers: a finite double is a sign and a natural number times a power of two,
and every rational has a nearest double. All conversions of the library round here, once, to
nearest with ties to even.
-/

namespace Daybook.Number

/-- What a double stands for. A finite one is `mant * 2 ^ exp`, with its sign kept apart so
that the two zeros differ. -/
inductive Parts
  | finite (negative : Bool) (mant : Nat) (exp : Int)
  | infinite (negative : Bool)
  | nan
  deriving DecidableEq, Repr

/-- Reads the sign, the exponent and the fraction off the bits of a double. -/
def parts (x : Float) : Parts :=
  let b := x.toBits.toNat
  let negative := decide (pow2 63 ≤ b)
  let e : Nat := b / pow2 52 % pow2 11
  let f := b % pow2 52
  if e = 2047 then (if f = 0 then .infinite negative else .nan)
  else if e = 0 then .finite negative f (-1074)
  else .finite negative (pow2 52 + f) ((e : Int) - 1075)

/-- The double with the given sign and the given bits below it. -/
def ofMagnitude (negative : Bool) (bits : Nat) : Float :=
  Float.ofBits (UInt64.ofNat (if negative then pow2 63 + bits else bits))

def infinity (negative : Bool) : Float := ofMagnitude negative (2047 * pow2 52)

def notANumber : Float := ofMagnitude false (2047 * pow2 52 + pow2 51)

def zero (negative : Bool) : Float := ofMagnitude negative 0

def isNaN (x : Float) : Bool := parts x == .nan

def isInfinite (x : Float) : Bool :=
  match parts x with
  | .infinite _ => true
  | _ => false

def isFinite (x : Float) : Bool :=
  match parts x with
  | .finite .. => true
  | _ => false

/-- The natural number nearest to `num / den`; a half goes to the even neighbour. -/
def roundHalfEven (num den : Nat) : Nat :=
  let q := num / den
  let r := num % den
  if 2 * r < den then q
  else if den < 2 * r then q + 1
  else if q % 2 = 0 then q else q + 1

/-- The exponent `k` with `2 ^ k ≤ num / den < 2 ^ (k + 1)`, for positive numbers. -/
def floorLog2 (num den : Nat) : Int :=
  let k : Int := Nat.log2 num - Nat.log2 den
  let below := if 0 ≤ k then num < den * pow2 k.toNat else num * pow2 (-k).toNat < den
  if below then k - 1 else k

/-- `num / den * 2 ^ k` as a quotient of natural numbers. -/
def scale2 (num den : Nat) (k : Int) : Nat × Nat :=
  if 0 ≤ k then (num * pow2 k.toNat, den) else (num, den * pow2 (-k).toNat)

/-- The bits below the sign of the double nearest to `num / den`. A carry out of the fraction
lands in the exponent, which is where it belongs. -/
def nearestBits (num den : Nat) : Nat :=
  if num = 0 then 0
  else
    let q := max (-1074) (floorLog2 num den - 52)
    let (n, d) := scale2 num den (-q)
    (q + 1074).toNat * pow2 52 + roundHalfEven n d

/-- The double nearest to `± num / den`, or none if that is out of range. -/
def nearest? (negative : Bool) (num den : Nat) : Option Float :=
  let bits := nearestBits num den
  if bits < 2047 * pow2 52 then some (ofMagnitude negative bits) else none

/-- The double nearest to a whole number, or none if that is out of range. -/
def ofInt? (n : Int) : Option Float := nearest? (decide (n < 0)) n.natAbs 1

/-- The double nearest to a natural number; past the greatest double it is infinity. -/
def ofNat (n : Nat) : Float := (nearest? false n 1).getD (infinity false)

/-- The double nearest to `± mant * 10 ^ exp`, infinity past the greatest one. What is far out
of range, by a lower and an upper estimate of the exponent of its first digit, is answered
without computing the power. -/
def ofDecimal (negative : Bool) (mant : Nat) (exp : Int) : Float :=
  if mant = 0 then zero negative
  else
    let bits : Int := Nat.log2 mant
    if 400 < bits * 3 / 10 + exp then infinity negative
    else if bits / 2 + 1 + exp < -400 then zero negative
    else
      let r := if 0 ≤ exp then nearest? negative (mant * pow10 exp.toNat) 1
        else nearest? negative mant (pow10 (-exp).toNat)
      r.getD (infinity negative)

/-- The whole number that a finite double has after its fraction is dropped. -/
def truncate (mant : Nat) (exp : Int) : Nat :=
  if 0 ≤ exp then mant * pow2 exp.toNat else mant / pow2 (-exp).toNat

/-- The whole number nearest to a finite double; a half goes to the even neighbour. -/
def roundWhole (mant : Nat) (exp : Int) : Nat :=
  if 0 ≤ exp then mant * pow2 exp.toNat else roundHalfEven mant (pow2 (-exp).toNat)

def withSign (negative : Bool) (n : Nat) : Int := if negative then -(n : Int) else n

/-- Rounds a finite double to a whole number. -/
def round? (x : Float) : Option Int :=
  match parts x with
  | .finite s m e => some (withSign s (roundWhole m e))
  | _ => none

/-- The exact value of a finite double as a whole number, if it is one. -/
def whole? (x : Float) : Option Int :=
  match parts x with
  | .finite s m e =>
    if 0 ≤ e ∨ m % pow2 (-e).toNat = 0 then some (withSign s (truncate m e)) else none
  | _ => none

/-- The remainder of a division that goes to a whole quotient toward zero. It is exact, and it
has the sign of the dividend. -/
def remainder (a b : Float) : Float :=
  match parts a, parts b with
  | .finite s m e, .finite _ n f =>
    if n = 0 then notANumber
    else
      let k := min e f
      let r := (m * pow2 (e - k).toNat) % (n * pow2 (f - k).toNat)
      let (num, den) := scale2 r 1 k
      (nearest? s num den).getD notANumber
  | .finite .., .infinite _ => a
  | _, _ => notANumber

end Daybook.Number
