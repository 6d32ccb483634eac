import Daybook.Format.Item
import Daybook.Template.Render

/-!
Writing a value of any kind by a format. Moments are written by date formats, all others by number
formats, and not all of those can be written without one.
-/

namespace Daybook

open Format

/-- A value that is neither a number nor a moment, as something to be written. What is written has
characters only, so a half is written as its shape. -/
def Value.item : Value → Item
  | .flag b => .flag b
  | .text s => .text s.shape
  | .series s _ => { kind := "Series", plain := s.summary.toList, shown := s.summary.toList }
  | _ => .nothing

/-- Why a value could not be written: its format does not fit, or it needs one. -/
inductive WriteStop
  | fault (f : Fault)
  | refused (r : Item.Refusal)

/-- Writes an item by a format or without one. -/
def Format.Item.written (i : Item) (format : Option (List Char)) : Except WriteStop (List Char) :=
  match given? format with
  | none => i.default.mapError .refused
  | some f => (i.write f).mapError fun e => .fault (.badFormat (String.ofList f) e)

/-- Writes a value by a format or by the default of its kind. -/
def Value.written (default : List Char) (format : Option (List Char)) (v : Value) :
    Except WriteStop (List Char) :=
  match v.scalar? with
  | some s => (s.write default format).mapError .fault
  | Option.none => v.item.written format

end Daybook
