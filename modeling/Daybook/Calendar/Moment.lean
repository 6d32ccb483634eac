import Daybook.Calendar.Date
import Daybook.Number.Power
import Daybook.Text.Words

/-!
A moment is a day of the calendar or an instant of such a day. Its plain text is the one that
dates have everywhere outside a chosen format.
-/

namespace Daybook

open Text

/-- A time of day, to the millionth of a second. -/
structure Clock where
  hour : Fin 24
  minute : Fin 60
  second : Fin 60
  micro : Fin 1000000
  deriving DecidableEq

def Clock.midnight : Clock := ⟨0, 0, 0, 0⟩

inductive Moment
  | day (date : Date)
  | instant (date : Date) (clock : Clock)
  deriving DecidableEq

namespace Date

def chars (d : Date) : List Char :=
  paddedNat 4 d.year ++ '-' :: paddedNat 2 d.month ++ '-' :: paddedNat 2 d.day

def text (d : Date) : String := String.ofList d.chars

end Date

namespace Clock

/-- Hours, minutes and seconds with colons, and six digits of a second if they are not zero. -/
def chars (t : Clock) : List Char :=
  paddedNat 2 t.hour ++ ':' :: paddedNat 2 t.minute ++ ':' :: paddedNat 2 t.second ++
    if t.micro.val = 0 then [] else '.' :: paddedNat 6 t.micro

/-- Reads `HH:MM:SS` with an optional fraction of one to six digits. -/
def read? (cs : List Char) : Option Clock :=
  match cs with
  | h1 :: h2 :: ':' :: m1 :: m2 :: ':' :: s1 :: s2 :: rest => do
    let two := fun a b => do
      let x ← digit? a
      let y ← digit? b
      pure (10 * x + y)
    let h ← two h1 h2
    let m ← two m1 m2
    let s ← two s1 s2
    let f ← match rest with
      | [] => some []
      | '.' :: ds => ds.mapM digit?
      | _ => none
    let u := ofDigits 10 f * Number.pow10 (6 - f.length)
    if hb : h < 24 ∧ m < 60 ∧ s < 60 ∧ u < 1000000 then
      some ⟨⟨h, hb.1⟩, ⟨m, hb.2.1⟩, ⟨s, hb.2.2.1⟩, ⟨u, hb.2.2.2⟩⟩
    else none
  | _ => none

end Clock

namespace Moment

def date : Moment → Date
  | day d => d
  | instant d _ => d

def clock : Moment → Clock
  | day _ => Clock.midnight
  | instant _ t => t

def chars : Moment → List Char
  | day d => d.chars
  | instant d t => d.chars ++ 'T' :: t.chars

def text (m : Moment) : String := String.ofList m.chars

end Moment

end Daybook
