import Daybook.Calendar.Moment
import Daybook.Text.Points

/-!
A series holds a number, or nothing, for every day of an axis, and keeps figures about its
present values at hand. Series that are derived from others carry the mark of a clone.
-/

namespace Daybook

/-- What the numbers of a series measure. -/
inductive Measure
  | number
  | time
  | date
  deriving DecidableEq, Repr

def Measure.text : Measure → String
  | number => "number"
  | time => "time"
  | date => "date"

def Measure.ofText? (s : String) : Option Measure := [number, time, date].find? (·.text == s)

/-- One day of a series. -/
structure Entry where
  day : Date
  value : Option Float

def Entry.isPresent (e : Entry) : Bool := e.value.isSome

/-- Figures about the present values of a series. -/
structure Stats where
  least : Option Float := none
  greatest : Option Float := none
  firstDay : Option Date := none
  lastDay : Option Date := none
  count : Nat := 0

namespace Stats

/-- The smaller of a known least value and a new one; the known one stays on a draw. -/
def lesser (known : Option Float) (x : Float) : Option Float :=
  match known with
  | none => some x
  | some m => if x < m then some x else some m

/-- The greater of a known greatest value and a new one; the known one stays on a draw. -/
def greater (known : Option Float) (x : Float) : Option Float :=
  match known with
  | none => some x
  | some m => if m < x then some x else some m

/-- The figures after one more day, which comes after all others. -/
def push (s : Stats) (e : Entry) : Stats :=
  match e.value with
  | none => s
  | some x => {
      least := lesser s.least x
      greatest := greater s.greatest x
      firstDay := s.firstDay.or (some e.day)
      lastDay := some e.day
      count := s.count + 1 }

def ofEntries (es : List Entry) : Stats := es.foldl push {}

/-- The figures after a day that was absent has got a value. The day may lie anywhere. -/
def insert (s : Stats) (day : Date) (x : Float) : Stats where
  least := lesser s.least x
  greatest := greater s.greatest x
  firstDay := match s.firstDay with
    | none => some day
    | some d => if day < d then some day else some d
  lastDay := match s.lastDay with
    | none => some day
    | some d => if d < day then some day else some d
  count := s.count + 1

end Stats

structure Series where
  entries : List Entry
  id : Int := -1
  name : Points := "untitled"
  measure : Measure := .number
  usedAsX : Bool := false
  targets : Int := 0
  isClone : Bool := false
  stats : Stats := Stats.ofEntries entries

/-- Why a series cannot be built or registered. -/
inductive SeriesFault
  | wrongLength (name : Points) (values days : Nat)
  | foreignAxis (name : Points)
  | endBeforeStart (start finish : Date)

def SeriesFault.message : SeriesFault → Points
  | wrongLength n v d => "Series '" ++ n ++ "' has " ++ Text.natText v ++ " value(s) for " ++
      Text.natText d ++ " date(s)"
  | foreignAxis n => "Series '" ++ n ++ "' does not use the registry date axis"
  | endBeforeStart s e => "End date " ++ e.text ++ " is before start date " ++ s.text

namespace Series

def dates (s : Series) : List Date := s.entries.map (·.day)

def values (s : Series) : List (Option Float) := s.entries.map (·.value)

def present (s : Series) : List Float := s.entries.filterMap (·.value)

def length (s : Series) : Nat := s.entries.length

def sharesAxis (s t : Series) : Bool := s.dates == t.dates

/-- Puts values on the days of an axis. -/
def zipEntries (axis : List Date) (values : List (Option Float)) : List Entry :=
  List.zipWith Entry.mk axis values

/-- A series of the given kind; there has to be a value or a gap for every day. Without values
all days are absent. -/
def make (axis : List Date) (values : Option (List (Option Float))) (id : Int) (name : Points)
    (measure : Measure) (usedAsX : Bool) (targets : Int) : Except SeriesFault Series :=
  let values := values.getD (axis.map fun _ => none)
  if values.length = axis.length then
    .ok { entries := zipEntries axis values, id, name, measure, usedAsX, targets }
  else .error (.wrongLength name values.length axis.length)

/-- A new series with other entries that keeps what the numbers measure and the target count. -/
def derive (s : Series) (entries : List Entry) : Series :=
  { entries, name := "tmp", measure := s.measure, targets := s.targets, isClone := true }

def clone (s : Series) : Series := s.derive s.entries

/-- A derived series with the given values on the same days. -/
def withValues (s : Series) (values : List (Option Float)) : Except SeriesFault Series :=
  if values.length = s.length then .ok (s.derive (zipEntries s.dates values))
  else .error (.wrongLength "tmp" values.length s.length)

/-- A derived series in which every present value is changed. -/
def mapPresent (f : Float → Float) (s : Series) : Series :=
  s.derive (s.entries.map fun e => { e with value := e.value.map f })

/-- A derived series that joins two series day by day. A day is present if it is so in both. -/
def zipPresent (f : Float → Float → Float) (s t : Series) : Series :=
  s.derive (List.zipWith (fun a b => { a with value := a.value.bind fun x => b.value.map (f x) })
    s.entries t.entries)

@[simp] theorem length_dates (s : Series) : s.dates.length = s.length := by
  simp [dates, length]

@[simp] theorem length_values (s : Series) : s.values.length = s.length := by
  simp [values, length]

@[simp] theorem dates_clone (s : Series) : s.clone.dates = s.dates := rfl

@[simp] theorem dates_mapPresent (f : Float → Float) (s : Series) :
    (s.mapPresent f).dates = s.dates := by
  simp [mapPresent, derive, dates]

end Series

/-- A series in short: its id, its name in quotes, how many days it has and how many present. -/
def Series.summary (s : Series) : String :=
  "Series(id=" ++ Text.intText s.id ++ ", name=" ++ String.ofList s.name.quoted ++
    ", days=" ++ Text.natText s.length ++ ", non_null=" ++ Text.natText s.stats.count ++ ")"

end Daybook
