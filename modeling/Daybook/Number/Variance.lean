import Daybook.Number.Binary

/-!
The sample variance of doubles, computed exactly and rounded once.
-/

namespace Daybook.Number

/-- A finite double as a whole multiple of `2 ^ k`, for a `k` that is small enough. -/
def multipleOf (k : Int) (x : Float) : Int :=
  match parts x with
  | .finite s m e => withSign s (m * pow2 (e - k).toNat)
  | _ => 0

/-- The least exponent among finite doubles, at most zero. -/
def leastExponent (xs : List Float) : Int :=
  xs.foldl (fun k x => match parts x with
    | .finite _ _ e => min k e
    | _ => k) 0

def sum (ns : List Int) : Int := ns.foldl (· + ·) 0

/-- The sum of the squares of whole numbers times their count, less the square of their sum:
the count times the sum of their squared distances from the mean. -/
def spread (ns : List Int) : Int :=
  ns.length * sum (ns.map fun n => n * n) - sum ns * sum ns

/-- The sample variance of two or more finite doubles, or none if it is out of range. -/
def exactVariance? (xs : List Float) : Option Float :=
  let k := leastExponent xs
  let n := xs.length
  let (num, den) := scale2 (spread (xs.map (multipleOf k))).toNat (n * (n - 1)) (2 * k)
  nearest? false num den

/-- The sample variance. If there are infinite values or such that are no numbers, it is their
sum over the count less one. -/
def variance? (xs : List Float) : Option Float :=
  let special := xs.filter fun x => !isFinite x
  if special = [] then exactVariance? xs
  else some (special.foldl (· + ·) 0.0 / ofNat (xs.length - 1))

end Daybook.Number
