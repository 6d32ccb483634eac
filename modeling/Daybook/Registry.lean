import Daybook.Series.Basic

/-!
A registry is an axis of days and the series that have been put on it, in the order in which
they came.
-/

namespace Daybook

structure Registry where
  axis : List Date
  members : List Series := []

namespace Registry

/-- An empty registry on all days from `start` to `finish`. -/
def ofRange (start finish : Date) : Except SeriesFault Registry :=
  if finish < start then .error (.endBeforeStart start finish)
  else .ok { axis := Date.range start finish }

/-- The place of a day on the axis, or -1. -/
def indexOf (r : Registry) (day : Date) : Int :=
  match r.axis.idxOf? day with
  | some i => i
  | none => -1

/-- The name of a series that is given none. -/
def defaultName (id : Int) : Points := "dataset" ++ Text.intText id

/-- A series without values on the axis of the registry. -/
def blankSeries (r : Registry) (id : Int) (name : Option Points) (measure : Measure)
    (usedAsX : Bool) : Series :=
  { entries := r.axis.map fun d => ⟨d, none⟩, id, name := name.getD (defaultName id), measure,
    usedAsX }

/-- Puts a series into the registry; it has to be on the axis. -/
def add (r : Registry) (s : Series) : Except SeriesFault Registry :=
  if s.dates = r.axis then .ok { r with members := r.members ++ [s] }
  else .error (.foreignAxis s.name)

/-- The first series with the given id, and its place. -/
def get? (r : Registry) (id : Int) : Option (Nat × Series) :=
  (r.members.findIdx? (·.id == id)).bind fun i => (r.members[i]?).map fun s => (i, s)

/-- The place of the first series that is not used as an x axis. -/
def defaultIndex? (r : Registry) : Option Nat := r.members.findIdx? (!·.usedAsX)

def default? (r : Registry) : Option Series := r.members.find? (!·.usedAsX)

/-- The ids of the series used as an x axis, each once. -/
def xIds (r : Registry) : List Int :=
  ((r.members.filter fun s => s.usedAsX && s.id != -1).map (·.id)).foldl
    (fun ids id => if id ∈ ids then ids else ids ++ [id]) []

def names (r : Registry) : List Points := r.members.map (·.name)

end Registry

end Daybook
