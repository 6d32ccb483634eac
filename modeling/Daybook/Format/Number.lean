import Daybook.Format.Directive
import Daybook.Number.Places

/-!
Writing a number by a format. The conversions `d`, `i` and `u` drop the fraction, `f`, `e` and
`g` round correctly in the three styles, `s`, `r` and `a` write the shortest decimal.
-/

namespace Daybook.Format

open Text

/-- The text of a number split into its sign and the rest. A flag may ask for a sign where there
is none. -/
def splitSign (f : Flags) (cs : List Char) : List Char × List Char :=
  match cs with
  | '-' :: rest => (['-'], rest)
  | _ => (if f.plus then ['+'] else if f.blank then [' '] else [], cs)

/-- Fills a signed number up to its width: with zeros after the sign, or with blanks on the
left or on the right. -/
def padNumber (f : Flags) (width : Nat) (cs : List Char) : List Char :=
  let (sign, body) := splitSign f cs
  if f.left then padRight ' ' width (sign ++ body)
  else if f.zero then sign ++ padLeft '0' (width - sign.length) body
  else padLeft ' ' width (sign ++ body)

def padText (f : Flags) (width : Nat) (cs : List Char) : List Char :=
  if f.left then padRight ' ' width cs else padLeft ' ' width cs

def wholeChars (digits : Nat) (n : Int) : List Char :=
  let body := paddedNat digits n.natAbs
  if n < 0 then '-' :: body else body

/-- The number without its fraction. -/
def whole (x : Float) : Except Fault Int :=
  match Number.parts x with
  | .finite s m e => .ok (Number.withSign s (Number.truncate m e))
  | .infinite _ => .error .infinityToWhole
  | .nan => .error .nanToWhole

/-- The style of a conversion letter and whether it writes capitals. -/
def style? (c : Char) : Option (Number.Style × Bool) :=
  match c with
  | 'f' => some (.fixed, false)
  | 'F' => some (.fixed, true)
  | 'e' => some (.scientific, false)
  | 'E' => some (.scientific, true)
  | 'g' => some (.general, false)
  | 'G' => some (.general, true)
  | _ => none

def styleChars (d : Directive) (s : Number.Style) (capitals : Bool) (x : Float) : List Char :=
  let cs := Number.styled s d.flags.alternate (d.precision.getD 6) x
  if capitals then cs.map Char.toUpper else cs

/-- Writes a number by a directive whose letter stands at the given position. -/
def Directive.write (d : Directive) (position : Nat) (x : Float) : Except Fault (List Char) :=
  match style? d.conversion with
  | some (s, capitals) => .ok (padNumber d.flags d.width (styleChars d s capitals x))
  | none =>
    match d.conversion with
    | 'd' | 'i' | 'u' =>
      (whole x).map fun n => padNumber d.flags d.width (wholeChars (d.precision.getD 1) n)
    | 's' | 'r' | 'a' =>
      let cs := Number.chars x
      .ok (padText d.flags d.width (match d.precision with
        | some p => cs.take p
        | none => cs))
    | 'o' | 'x' | 'X' => .error (.wholeRequired d.conversion "float")
    | 'c' => .error .characterRequired
    | c => .error (.unsupported c position)

/-- Writes the rest of a format, with what its one directive writes. The first number is the length
of the whole format, the second bounds the number of its parts. -/
def writeFrom (item : Directive → Nat → Except Fault (List Char)) (total : Nat) :
    Nat → Bool → List Char → Except Fault (List Char)
  | 0, _, _ => .ok []
  | n + 1, used, cs =>
    match cs with
    | [] => if used then .ok [] else .error .noConversion
    | '%' :: '%' :: rest => ('%' :: ·) <$> writeFrom item total n used rest
    | '%' :: rest => do
      let (d, rest) ← Directive.read used rest
      if used then throw .secondConversion
      let body ← item d (total - rest.length - 1)
      (body ++ ·) <$> writeFrom item total n true rest
    | c :: rest => (c :: ·) <$> writeFrom item total n used rest

/-- Writes something by a format; the leading percent sign is understood. -/
def write (item : Directive → Nat → Except Fault (List Char)) (format : List Char) :
    Except Fault (List Char) :=
  let cs := '%' :: format
  writeFrom item cs.length (cs.length + 1) false cs

def number (format : List Char) (x : Float) : Except Fault (List Char) :=
  write (fun d position => d.write position x) format

/-- One place after the point: the format of a number that has none. -/
def defaultNumber (x : Float) : List Char := Number.styled .fixed false 1 x

end Daybook.Format
