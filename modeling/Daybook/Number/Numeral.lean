import Daybook.Number.Binary
import Daybook.Text.Words

/-!
Reading numbers that people write: whole numbers and decimals with digits of any script, single
underscores between digits, and names for infinity and for what is not a number.
-/

namespace Daybook.Number

open Text

/-- Digits, with single underscores allowed between two of them; the digit values and what
follows. The first argument reads one digit. -/
def digitRun (digit : Char → Option Nat) : List Char → List Nat × List Char
  | [] => ([], [])
  | c :: cs =>
    match digit c with
    | none => ([], c :: cs)
    | some d =>
      let next := digitRun digit cs
      match cs with
      | '_' :: rest =>
        match digitRun digit rest with
        | ([], _) => ([d], cs)
        | (ds, r) => (d :: ds, r)
      | _ => (d :: next.1, next.2)

/-- A sign, if there is one; true for minus. -/
def takeSign : List Char → Bool × List Char
  | '-' :: cs => (true, cs)
  | '+' :: cs => (false, cs)
  | cs => (false, cs)

/-- The exponent `e±digits` of a decimal, if one stands here; else nothing is taken. -/
def takeExponent (digit : Char → Option Nat) (cs : List Char) : Int × List Char :=
  match cs with
  | c :: rest =>
    if c = 'e' ∨ c = 'E' then
      let (neg, rest) := takeSign rest
      match digitRun digit rest with
      | ([], _) => (0, cs)
      | (ds, r) => (withSign neg (ofDigits 10 ds), r)
    else (0, cs)
  | [] => (0, [])

/-- The double of a decimal given by the digits before and after its point and its exponent. -/
def ofDigitLists (negative : Bool) (whole fraction : List Nat) (exp : Int) : Float :=
  ofDecimal negative (ofDigits 10 (whole ++ fraction)) (exp - fraction.length)

/-- An unsigned decimal: digits on at least one side of the point, and perhaps an exponent. -/
def decimalBody? (negative : Bool) (cs : List Char) : Option Float :=
  let (whole, rest) := digitRun decimal? cs
  let (fraction, rest) := match rest with
    | '.' :: r => digitRun decimal? r
    | r => ([], r)
  if whole = [] ∧ fraction = [] then none
  else
    let (exp, rest) := takeExponent decimal? rest
    if rest = [] then some (ofDigitLists negative whole fraction exp) else none

/-- Reads a double from a text. Blanks around it do not matter. -/
def ofText? (cs : List Char) : Option Float :=
  let (neg, body) := takeSign (trim cs)
  let name := lower body
  if name = ['i', 'n', 'f'] ∨ name = ['i', 'n', 'f', 'i', 'n', 'i', 't', 'y'] then
    some (infinity neg)
  else if name = ['n', 'a', 'n'] then some notANumber
  else decimalBody? neg body

/-- The most decimal digits that a whole number may be read from. -/
def digitLimit : Nat := 4300

/-- Reads a whole number from a text. Blanks around it do not matter. -/
def intOfText? (cs : List Char) : Option Int :=
  let (neg, body) := takeSign (trim cs)
  match digitRun decimal? body with
  | (ds, []) =>
    if ds = [] ∨ digitLimit < ds.length then none else some (withSign neg (ofDigits 10 ds))
  | _ => none

end Daybook.Number
