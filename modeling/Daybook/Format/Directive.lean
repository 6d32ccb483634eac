import Daybook.Number.Power
import Daybook.Text.Words

/-!
Number formats are directives without their leading percent sign: flags, width, precision, a
size letter that means nothing, and the letter of a conversion. A format may go on with literal
text, in which `%%` is a percent sign.
-/

namespace Daybook.Format

open Text

/-- Why a format does not fit a number. -/
inductive Fault
  | wantsMapping
  | incomplete
  | widthFromArgument
  | widthTooBig
  | precisionTooBig
  | infinityToWhole
  | nanToWhole
  /-- What was found in place of a whole number, of a number, of a double. -/
  | wholeRequired (conversion : Char) (found : String)
  | numberRequired (conversion : Char) (found : String)
  | doubleRequired (found : String)
  | characterRequired
  | unsupported (conversion : Char) (position : Nat)
  | secondConversion
  | noConversion
  deriving DecidableEq, Repr

def Fault.message : Fault → List Char
  | wantsMapping => "format requires a mapping".toList
  | incomplete => "incomplete format".toList
  | widthFromArgument => "* wants int".toList
  | widthTooBig => "width too big".toList
  | precisionTooBig => "precision too big".toList
  | infinityToWhole => "cannot convert float infinity to integer".toList
  | nanToWhole => "cannot convert float NaN to integer".toList
  | wholeRequired c k => '%' :: c :: " format: an integer is required, not ".toList ++ k.toList
  | numberRequired c k => '%' :: c :: " format: a real number is required, not ".toList ++ k.toList
  | doubleRequired k => "must be real number, not ".toList ++ k.toList
  | characterRequired => "%c requires int or char".toList
  | unsupported c n =>
    let shown := if 31 ≤ c.toNat ∧ c.toNat < 127 then c else '?'
    "unsupported format character '".toList ++ shown :: "' (0x".toList ++ Nat.toDigits 16 (c.toNat) ++
      ") at index ".toList ++ natDigits n
  | secondConversion => "not enough arguments for format string".toList
  | noConversion => "not all arguments converted during string formatting".toList

structure Flags where
  left : Bool := false
  plus : Bool := false
  blank : Bool := false
  alternate : Bool := false
  zero : Bool := false
  deriving DecidableEq, Repr

structure Directive where
  flags : Flags
  width : Nat
  precision : Option Nat
  conversion : Char
  deriving DecidableEq, Repr

/-- Takes all flags; one may be repeated. -/
def takeFlags (f : Flags) : List Char → Flags × List Char
  | '-' :: cs => takeFlags { f with left := true } cs
  | '+' :: cs => takeFlags { f with plus := true } cs
  | ' ' :: cs => takeFlags { f with blank := true } cs
  | '#' :: cs => takeFlags { f with alternate := true } cs
  | '0' :: cs => takeFlags { f with zero := true } cs
  | cs => (f, cs)

/-- Takes the digits of a number that must not pass `limit`. -/
def takeNumber (limit : Nat) (n : Nat) : List Char → Option (Nat × List Char)
  | [] => some (n, [])
  | c :: cs =>
    match digit? c with
    | none => some (n, c :: cs)
    | some d => if limit < 10 * n + d then none else takeNumber limit (10 * n + d) cs

def widthLimit : Nat := Number.pow2 63 - 1

def precisionLimit : Nat := Number.pow2 31 - 1

/-- A width or precision that would be read from a further value: there is none, or it is the
number to be written, which is not whole. -/
def starFault (used : Bool) : Fault := if used then .secondConversion else .widthFromArgument

/-- The width, which may be missing. -/
def takeWidth (used : Bool) (cs : List Char) : Except Fault (Nat × List Char) :=
  match cs with
  | '*' :: _ => .error (starFault used)
  | _ =>
    match takeNumber widthLimit 0 cs with
    | some r => .ok r
    | none => .error .widthTooBig

/-- The precision, which may be missing; a point alone means zero. -/
def takePrecision (used : Bool) (cs : List Char) : Except Fault (Option Nat × List Char) :=
  match cs with
  | '.' :: '*' :: _ => .error (starFault used)
  | '.' :: rest =>
    match takeNumber precisionLimit 0 rest with
    | some (n, rest) => .ok (some n, rest)
    | none => .error .precisionTooBig
  | _ => .ok (none, cs)

/-- A size letter is passed over. -/
def skipSize : List Char → List Char
  | c :: cs => if c = 'h' ∨ c = 'l' ∨ c = 'L' then cs else c :: cs
  | [] => []

/-- Reads a directive after its percent sign. `used` tells that the number has been written
already. -/
def Directive.read (used : Bool) (cs : List Char) : Except Fault (Directive × List Char) := do
  if cs.head? = some '(' then throw .wantsMapping
  let (flags, cs) := takeFlags {} cs
  let (width, cs) ← takeWidth used cs
  let (precision, cs) ← takePrecision used cs
  match skipSize cs with
  | [] => throw .incomplete
  | c :: cs => pure (⟨flags, width, precision, c⟩, cs)

end Daybook.Format
