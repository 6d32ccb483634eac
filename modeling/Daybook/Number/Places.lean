import Daybook.Number.Shortest

/-!
Decimals with a chosen number of digits, correctly rounded from the exact value of a double; a
tie goes to the even last digit. Three styles: a fixed number of places, one digit before the
point with an exponent, and the one of the two that suits the size of the number.
-/

namespace Daybook.Number

open Text

/-- Digits with a point before the last `places` of them. With `keepPoint` the point is written
even if nothing follows it. -/
def withPoint (keepPoint : Bool) (places n : Nat) : List Char :=
  let ds := paddedNat (places + 1) n
  let w := ds.length - places
  ds.take w ++ if places = 0 ∧ !keepPoint then [] else '.' :: ds.drop w

/-- The multiple of `10 ^ -places` nearest to `mant * 2 ^ exp`, as a number of such units. -/
def roundPlaces (mant : Nat) (exp : Int) (places : Nat) : Nat :=
  let (num, den) := scale2 (mant * pow10 places) 1 exp
  roundHalfEven num den

def fixedChars (keepPoint : Bool) (mant : Nat) (exp : Int) (places : Nat) : List Char :=
  withPoint keepPoint places (roundPlaces mant exp places)

/-- The number rounded to `places + 1` significant digits, and the exponent of the first. -/
def significant (mant : Nat) (exp : Int) (places : Nat) : Nat × Int :=
  if mant = 0 then (0, 0)
  else
    let (num, den) := scale2 mant 1 exp
    let lead := floorLog10 num den
    let (n, d) := scale10 num den (places - lead)
    let r := roundHalfEven n d
    if r = pow10 (places + 1) then (pow10 places, lead + 1) else (r, lead)

def scientificChars (keepPoint : Bool) (mant : Nat) (exp : Int) (places : Nat) : List Char :=
  let (n, lead) := significant mant exp places
  withPoint keepPoint places n ++ exponentText 2 lead

/-- Cuts the zeros off the end of a fraction, and the point too if nothing is left of it. -/
def cutZeros (cs : List Char) : List Char :=
  if '.' ∈ cs then
    let r := cs.reverse.dropWhile (· == '0')
    (match r with
      | '.' :: r => r
      | r => r).reverse
  else cs

/-- At most `digits` significant digits: positional as long as the exponent is at least -4 and
below the number of digits. With `keepPoint` no zero is cut off. -/
def generalChars (keepPoint : Bool) (mant : Nat) (exp : Int) (digits : Nat) : List Char :=
  let p := max digits 1
  let (n, lead) := significant mant exp (p - 1)
  let cut := fun cs => if keepPoint then cs else cutZeros cs
  if -4 ≤ lead ∧ lead < p then
    cut (fixedChars keepPoint mant exp ((p : Int) - 1 - lead).toNat)
  else cut (withPoint keepPoint (p - 1) n) ++ exponentText 2 lead

/-- The three styles. -/
inductive Style
  | fixed
  | scientific
  | general
  deriving DecidableEq, Repr

def Style.chars : Style → Bool → Nat → Int → Nat → List Char
  | .fixed => fixedChars
  | .scientific => scientificChars
  | .general => generalChars

/-- A double in the given style. What is not a finite number has a name instead of digits. -/
def styled (s : Style) (keepPoint : Bool) (places : Nat) (x : Float) : List Char :=
  match parts x with
  | .nan => ['n', 'a', 'n']
  | .infinite neg => if neg then ['-', 'i', 'n', 'f'] else ['i', 'n', 'f']
  | .finite neg m e =>
    let body := s.chars keepPoint m e places
    if neg then '-' :: body else body

end Daybook.Number
