import Daybook.Number.Binary
import Daybook.Text.Words

/-!
The shortest decimal of a double: of all decimals that lie nearer to it than to any other
double, the ones with the fewest digits, and of these the nearest. A layout then decides how
digits and exponent are written.
-/

namespace Daybook.Number

/-- The decimal `digits * 10 ^ exp`. -/
structure Decimal where
  digits : Nat
  exp : Int
  deriving DecidableEq, Repr

/-- `num / den * 10 ^ k` as a quotient of natural numbers. -/
def scale10 (num den : Nat) (k : Int) : Nat × Nat :=
  if 0 ≤ k then (num * pow10 k.toNat, den) else (num, den * pow10 (-k).toNat)

/-- The reals that round to the double `mant * 2 ^ exp`, in units of `2 ^ (exp - 2)`. Below a
power of two the neighbour is only half as far away. -/
structure Reach where
  low : Nat
  mid : Nat
  high : Nat
  /-- The ends round to the double as well. -/
  closed : Bool

def reach (mant : Nat) (exp : Int) : Reach :=
  { low := if mant = pow2 52 ∧ exp ≠ -1074 then 4 * mant - 1 else 4 * mant - 2
    mid := 4 * mant
    high := 4 * mant + 2
    closed := mant % 2 == 0 }

/-- Whether the grid point `c` rounds to the double, `num / den` being the unit of the reach on
the scale of the grid. -/
def Reach.holds (r : Reach) (num den c : Nat) : Bool :=
  if r.closed then r.low * num ≤ c * den && c * den ≤ r.high * num
  else r.low * num < c * den && c * den < r.high * num

/-- The point of the grid of multiples of `10 ^ t` that rounds to the double and is nearest to
it, if any: only the two neighbours of the double on the grid can be that point. -/
def onGrid? (r : Reach) (exp t : Int) : Option Decimal :=
  let (n2, d2) := scale2 1 1 (exp - 2)
  let (num, den) := scale10 n2 d2 (-t)
  let v := r.mid * num
  let below := v / den
  let above := below + 1
  match below != 0 && r.holds num den below, r.holds num den above with
  | true, true =>
    let up := above * den - v
    let down := v - below * den
    if down < up ∨ (down = up ∧ below % 2 = 0) then some ⟨below, t⟩ else some ⟨above, t⟩
  | true, false => some ⟨below, t⟩
  | false, true => some ⟨above, t⟩
  | false, false => none

/-- The exponent `k` with `10 ^ k ≤ num / den < 10 ^ (k + 1)`, searched from an estimate. -/
def floorLog10 (num den : Nat) : Int :=
  let guess := floorLog2 num den * 30103 / 100000 - 1
  let atLeast := fun (k : Int) =>
    let (n, d) := scale10 num den (-k)
    decide (d ≤ n)
  if atLeast (guess + 2) then guess + 2
  else if atLeast (guess + 1) then guess + 1
  else guess

/-- Tries grids of `n`, `n + 1`, … digits. -/
def searchFrom (r : Reach) (exp : Int) (lead : Int) : Nat → Nat → Decimal
  | 0, n => ⟨0, n⟩
  | k + 1, n =>
    match onGrid? r exp (lead - n + 1) with
    | some d => d
    | none => searchFrom r exp lead k (n + 1)

/-- The shortest decimal of a positive double. Seventeen digits always suffice. -/
def shortest (mant : Nat) (exp : Int) : Decimal :=
  let (num, den) := scale2 mant 1 exp
  searchFrom (reach mant exp) exp (floorLog10 num den) 17 1

/-- Takes the zeros at the end of the digits into the exponent. -/
def Decimal.stripFrom : Nat → Decimal → Decimal
  | 0, d => d
  | k + 1, d =>
    if d.digits % 10 = 0 ∧ d.digits ≠ 0 then Decimal.stripFrom k ⟨d.digits / 10, d.exp + 1⟩ else d

/-- How a shortest decimal is laid out. -/
structure Layout where
  /-- The least exponent of the first digit that is written positionally. -/
  positionalFrom : Int
  /-- The first exponent that is no longer written positionally. -/
  positionalTo : Int
  /-- What a whole number ends with. -/
  wholeEnd : List Char
  /-- The least number of digits of a written exponent. -/
  exponentDigits : Nat

/-- Positional from `10 ^ -4` to below `10 ^ 16`, whole numbers with one zero after the point,
exponents with a sign and two digits or more. -/
def plain : Layout := ⟨-4, 16, ['.', '0'], 2⟩

def exponentText (width : Nat) (e : Int) : List Char :=
  'e' :: (if e < 0 then '-' else '+') :: Text.paddedNat width e.natAbs

/-- Digits with the point after the first `whole` of them; zeros fill what is missing. -/
def positional (wholeEnd : List Char) (ds : List Char) (whole : Int) : List Char :=
  if whole ≤ 0 then '0' :: '.' :: List.replicate (-whole).toNat '0' ++ ds
  else
    let w := whole.toNat
    if ds.length ≤ w then Text.padRight '0' w ds ++ wholeEnd
    else ds.take w ++ '.' :: ds.drop w

def Layout.write (l : Layout) (d : Decimal) : List Char :=
  let d := d.stripFrom 20
  let ds := Text.natDigits d.digits
  let lead : Int := d.exp + ds.length - 1
  if l.positionalFrom ≤ lead ∧ lead < l.positionalTo then positional l.wholeEnd ds (lead + 1)
  else
    let m := match ds with
      | [] => []
      | [c] => [c]
      | c :: rest => c :: '.' :: rest
    m ++ exponentText l.exponentDigits lead

/-- The text of a double: its shortest decimal, with the sign of a zero kept and the sign of
what is not a number dropped. -/
def chars (x : Float) : List Char :=
  match parts x with
  | .nan => ['n', 'a', 'n']
  | .infinite s => if s then ['-', 'i', 'n', 'f'] else ['i', 'n', 'f']
  | .finite s m e =>
    let body := if m = 0 then '0' :: plain.wholeEnd else plain.write (shortest m e)
    if s then '-' :: body else body

def text (x : Float) : String := String.ofList (chars x)

end Daybook.Number
