import Daybook.Series.Basic

/-!
Changing a series in place. Each change leaves the figures of the series as they belong to its
values: they are computed anew, or brought up to date where one absent day gets a value.
-/

namespace Daybook.Series

/-- The series with other entries and figures that belong to them. -/
def setEntries (s : Series) (entries : List Entry) : Series :=
  { s with entries, stats := Stats.ofEntries entries }

def recalculate (s : Series) : Series := s.setEntries s.entries

def indexOf? (s : Series) (day : Date) : Option Nat := s.dates.idxOf? day

/-- The value of the day that lies `shift` places behind the given one, if both are on the axis
and it is present. -/
def valueAt (s : Series) (day : Date) (shift : Int) : Option Float :=
  match s.indexOf? day with
  | none => none
  | some i =>
    let k : Int := i + shift
    if 0 ≤ k then (s.entries[k.toNat]?).bind (·.value) else none

/-- Sets the value of a day; false if the day is not on the axis. -/
def setValue (s : Series) (day : Date) (x : Float) : Series × Bool :=
  match s.indexOf? day with
  | none => (s, false)
  | some i =>
    let known := (s.entries[i]?).bind (·.value)
    let entries := s.entries.modify i fun e => { e with value := some x }
    if known.isSome then (s.setEntries entries, true)
    else ({ s with entries, stats := s.stats.insert day x }, true)

def addTargets (s : Series) (n : Int) : Series := { s with targets := s.targets + n }

/-- Whether a value is to be shifted: all are if there is no threshold. -/
def reaches (threshold : Option Float) (x : Float) : Bool :=
  match threshold with
  | none => true
  | some t => decide (t ≤ x)

/-- Adds an amount to the present values that reach the threshold; true if there are any. -/
def shiftValues (s : Series) (amount : Float) (threshold : Option Float) : Series × Bool :=
  if s.present.any (reaches threshold) then
    (s.setEntries (s.entries.map fun e =>
      { e with value := e.value.map fun x => if reaches threshold x then x + amount else x }), true)
  else (s, false)

def fillMissing (s : Series) (x : Float) : Series :=
  s.setEntries (s.entries.map fun e => { e with value := some (e.value.getD x) })

/-- The running totals of a list of days, from the given total on. Absent days add nothing. -/
def totals : Float → List Entry → List Entry
  | _, [] => []
  | total, e :: es =>
    let total := match e.value with
      | some x => total + x
      | none => total
    { e with value := some total } :: totals total es

/-- Replaces every value by the sum of the values up to it. -/
def accumulate (s : Series) : Series := s.setEntries (totals 0.0 s.entries)

end Daybook.Series
