import Daybook.Json.Basic
import Daybook.Number.Numeral
import Daybook.Text.Units

/-!
Reading JSON text. Besides the standard the reader takes `NaN`, `Infinity` and `-Infinity`. Of
two fields with one key the later value counts. A number without point and exponent is whole.
-/

namespace Daybook.Json

open Text

/-- Why a text holds no JSON value. -/
inductive Fault
  | malformed
  /-- A whole number has more digits than are read. -/
  | tooManyDigits (count : Nat)
  deriving DecidableEq, Repr

abbrev Reader (α : Type) := List Char → Except Fault (α × List Char)

def isSpace (c : Char) : Bool := c == ' ' || c == '\t' || c == '\n' || c == '\r'

def skipSpace (cs : List Char) : List Char := cs.dropWhile isSpace

/-- The character of a one-letter escape. -/
def escapeUnit? (c : Char) : Option Nat :=
  match c with
  | '"' => some 34
  | '\\' => some 92
  | '/' => some 47
  | 'b' => some 8
  | 'f' => some 12
  | 'n' => some 10
  | 'r' => some 13
  | 't' => some 9
  | _ => none

/-- The value of four digits in base sixteen. -/
def unit? (a b c d : Char) : Option Nat := do
  let a ← hexDigit? a
  let b ← hexDigit? b
  let c ← hexDigit? c
  let d ← hexDigit? d
  pure (ofDigits 16 [a, b, c, d])

/-- The code units of a string up to its closing quote. -/
def units : Reader (List Nat)
  | [] => .error .malformed
  | '"' :: rest => .ok ([], rest)
  | '\\' :: 'u' :: a :: b :: c :: d :: rest =>
    match unit? a b c d, units rest with
    | some u, .ok (us, r) => .ok (u :: us, r)
    | none, _ => .error .malformed
    | _, .error e => .error e
  | '\\' :: e :: rest =>
    match escapeUnit? e, units rest with
    | some u, .ok (us, r) => .ok (u :: us, r)
    | none, _ => .error .malformed
    | _, .error f => .error f
  | c :: rest =>
    if c.toNat < 32 then .error .malformed
    else
      match units rest with
      | .ok (us, r) => .ok (c.toNat :: us, r)
      | .error f => .error f

/-- A string, after its opening quote. -/
def string : Reader Points := fun cs => do
  let (us, rest) ← units cs
  pure (ofUnits us, rest)

/-- Digits of a fraction, if a point with a digit after it stands here. -/
def fraction? : List Char → Option (List Nat × List Char)
  | '.' :: rest =>
    let ds := rest.takeWhile isDigit
    if ds = [] then none else some (ds.filterMap digit?, rest.dropWhile isDigit)
  | _ => none

/-- The exponent, if one with a digit stands here. -/
def exponent? : List Char → Option (Int × List Char)
  | c :: rest =>
    if c = 'e' ∨ c = 'E' then
      let (neg, rest) := Number.takeSign rest
      let ds := rest.takeWhile isDigit
      if ds = [] then none
      else some (Number.withSign neg (ofDigits 10 (ds.filterMap digit?)), rest.dropWhile isDigit)
    else none
  | [] => none

/-- A number whose whole part is given, from what follows that part. -/
def numberRest (negative : Bool) (whole : List Nat) : Reader Json := fun cs =>
  match fraction? cs with
  | some (frac, rest) =>
    let (exp, rest) := (exponent? rest).getD (0, rest)
    .ok (.float (Number.ofDigitLists negative whole frac exp), rest)
  | none =>
    match exponent? cs with
    | some (exp, rest) => .ok (.float (Number.ofDigitLists negative whole [] exp), rest)
    | none =>
      if Number.digitLimit < whole.length then .error (.tooManyDigits whole.length)
      else .ok (.int (Number.withSign negative (ofDigits 10 whole)), cs)

/-- A number, after its sign: a zero, or digits of which the first is not zero. -/
def number (negative : Bool) : Reader Json
  | '0' :: rest => numberRest negative [0] rest
  | cs =>
    let ds := cs.takeWhile isDigit
    if ds = [] then .error .malformed
    else numberRest negative (ds.filterMap digit?) (cs.dropWhile isDigit)

/-- A word that stands for a value. -/
def word? (cs : List Char) : Option (Json × List Char) :=
  let table : List (List Char × Json) := [
    (['n', 'u', 'l', 'l'], .null),
    (['t', 'r', 'u', 'e'], .bool true),
    (['f', 'a', 'l', 's', 'e'], .bool false),
    (['N', 'a', 'N'], .float Number.notANumber),
    (['I', 'n', 'f', 'i', 'n', 'i', 't', 'y'], .float (Number.infinity false)),
    (['-', 'I', 'n', 'f', 'i', 'n', 'i', 't', 'y'], .float (Number.infinity true))]
  table.findSome? fun (w, j) => (after? w cs).map fun rest => (j, rest)

/-- A value that holds no others. -/
def scalar : Reader Json := fun cs =>
  match word? cs with
  | some r => .ok r
  | none =>
    match cs with
    | '-' :: rest => number true rest
    | _ => number false cs

mutual

/-- A value that begins here. The first argument bounds how many values are still read; the
length of the text is enough. -/
def value : Nat → Reader Json
  | 0, _ => .error .malformed
  | n + 1, cs =>
    match cs with
    | '"' :: rest => do
      let (s, rest) ← string rest
      pure (.text s, rest)
    | '[' :: rest =>
      match skipSpace rest with
      | ']' :: rest => .ok (.array [], rest)
      | rest => do
        let (xs, rest) ← items n rest
        pure (.array xs, rest)
    | '\x7b' :: rest =>
      match skipSpace rest with
      | '\x7d' :: rest => .ok (.object [], rest)
      | rest => do
        let (fs, rest) ← fields n [] rest
        pure (.object fs, rest)
    | _ => scalar cs

/-- The items of an array, from the first to the closing bracket. -/
def items : Nat → Reader (List Json)
  | 0, _ => .error .malformed
  | n + 1, cs => do
    let (x, rest) ← value n cs
    match skipSpace rest with
    | ']' :: rest => pure ([x], rest)
    | ',' :: rest =>
      let (xs, rest) ← items n (skipSpace rest)
      pure (x :: xs, rest)
    | _ => throw .malformed

/-- The fields of an object, added to those read before, up to the closing brace. -/
def fields : Nat → List (Points × Json) → Reader (List (Points × Json))
  | 0, _, _ => .error .malformed
  | n + 1, known, cs =>
    match cs with
    | '"' :: rest => do
      let (k, rest) ← string rest
      match skipSpace rest with
      | ':' :: rest =>
        let (v, rest) ← value n (skipSpace rest)
        let known := put k v known
        match skipSpace rest with
        | '\x7d' :: rest => pure (known, rest)
        | ',' :: rest => fields n known (skipSpace rest)
        | _ => throw .malformed
      | _ => throw .malformed
    | _ => .error .malformed

end

/-- Reads a text that holds one value and nothing else but white space. -/
def read (cs : List Char) : Except Fault Json := do
  let (j, rest) ← value (cs.length + 1) (skipSpace cs)
  if skipSpace rest = [] then pure j else throw .malformed

end Daybook.Json
