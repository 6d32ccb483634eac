import Daybook.Format.Number
import Daybook.Text.Quoted

/-!
Writing by a number format what is no number: flags, which count as zero and one, and things that
have a text. Directives for texts write them, the others ask for a number.
-/

namespace Daybook.Format

open Text

/-- Something to be written, with the word for its kind in messages. -/
structure Item where
  kind : String
  plain : List Char
  /-- Its text as it is shown inside other texts. -/
  shown : List Char
  /-- The number that a flag counts as. -/
  count : Option Nat := none
  /-- The character that it is. -/
  char : Option Char := none

namespace Item

def flag (b : Bool) : Item :=
  let cs := if b then "True".toList else "False".toList
  { kind := "bool", plain := cs, shown := cs, count := some b.toNat,
    char := some (if b then '\x01' else '\x00') }

def text (s : List Char) : Item :=
  { kind := "str", plain := s, shown := quoted s
    char := match s with
      | [c] => some c
      | _ => none }

def nothing : Item := { kind := "NoneType", plain := "None".toList, shown := "None".toList }

/-- A fault, by the word for its kind and its message. -/
def fault (kind message : String) : Item :=
  { kind := "ExprError"
    plain := ("Error: " ++ message).toList
    shown := ("ExprError(kind=<ErrorKind." ++ kind.toUpper ++ ": '" ++ kind ++
      "'>, message=").toList ++ quoted message.toList ++ [')'] }

/-- A text with every character of another script as an escape. -/
def plainly (cs : List Char) : List Char :=
  cs.flatMap fun c => if c.toNat < 128 then [c] else '\\' :: shortEscape c

/-- What stands before a number in another base than ten, if the directive asks for it. -/
def baseMark (d : Directive) : List Char := if d.flags.alternate then ['0', d.conversion] else []

/-- A count in base eight or sixteen. It is zero or one, which all bases write alike. -/
def basedChars (d : Directive) (n : Nat) : List Char :=
  let (sign, body) := splitSign d.flags (paddedNat (d.precision.getD 1) n)
  let mark := sign ++ baseMark d
  if d.flags.left then padRight ' ' d.width (mark ++ body)
  else if d.flags.zero then mark ++ padLeft '0' (d.width - mark.length) body
  else padLeft ' ' d.width (mark ++ body)

/-- Writes an item by a directive whose letter stands at the given position. -/
def writeBy (i : Item) (d : Directive) (position : Nat) : Except Fault (List Char) :=
  let cut := fun cs : List Char => padText d.flags d.width (match d.precision with
    | some p => cs.take p
    | none => cs)
  match style? d.conversion, i.count with
  | some (s, capitals), some n =>
    .ok (padNumber d.flags d.width (styleChars d s capitals (Float.ofNat n)))
  | some _, none => .error (.doubleRequired i.kind)
  | none, count =>
    match d.conversion, count with
    | 'd', some n | 'i', some n | 'u', some n =>
      .ok (padNumber d.flags d.width (paddedNat (d.precision.getD 1) n))
    | 'd', none | 'i', none | 'u', none => .error (.numberRequired d.conversion i.kind)
    | 'o', some n | 'x', some n | 'X', some n => .ok (basedChars d n)
    | 'o', none | 'x', none | 'X', none => .error (.wholeRequired d.conversion i.kind)
    | 's', _ => .ok (cut i.plain)
    | 'r', _ => .ok (cut i.shown)
    | 'a', _ => .ok (cut (plainly i.shown))
    | 'c', _ =>
      match i.char with
      | some c => .ok (padText d.flags d.width [c])
      | none => .error .characterRequired
    | c, _ => .error (.unsupported c position)

/-- Writes an item by a format. A flag may serve as a width, but then nothing is left to write. -/
def write (i : Item) (format : List Char) : Except Fault (List Char) :=
  match Format.write i.writeBy format with
  | .error .widthFromArgument =>
    .error (if i.count.isSome then .secondConversion else .widthFromArgument)
  | r => r

/-- Why an item has no text without a format. -/
inductive Refusal
  | text
  | thing (kind : String)
  deriving DecidableEq, Repr

def Refusal.message : Refusal → String
  | text => "Unknown format code 'f' for object of type 'str'"
  | thing kind => "unsupported format string passed to " ++ kind ++ ".__format__"

/-- Writes an item without a format, as a number with one place. -/
def default (i : Item) : Except Refusal (List Char) :=
  match i.count with
  | some n => .ok (defaultNumber (Float.ofNat n))
  | none => .error (if i.kind = "str" then .text else .thing i.kind)

end Item

end Daybook.Format
