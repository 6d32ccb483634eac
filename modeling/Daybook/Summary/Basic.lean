import Daybook.Number.Sorting
import Daybook.Number.Variance
import Daybook.Summary.Run
import Daybook.Value

/-!
The figures that an expression can ask of a series: extremes and their days, sums and averages,
runs of days, counts. Absent days count only where days are counted.
-/

namespace Daybook

/-- What is asked of a run. -/
inductive RunPart
  | length
  | first
  | last
  deriving DecidableEq, Repr

/-- Names that functions once had. -/
inductive Retired
  | count
  | days
  | lastStreak
  deriving DecidableEq, Repr

def Retired.text : Retired → String
  | count => "count"
  | days => "days"
  | lastStreak => "lastStreak"

inductive Summary
  | least | leastDate
  | greatest | greatestDate
  | startDate | endDate
  | sum | targets | days | daysPresent
  /-- The longest run of present or of absent days. -/
  | longest (present : Bool) (part : RunPart)
  /-- The run of present or of absent days that ends on the last day. -/
  | current (present : Bool) (part : RunPart)
  | average | median | variance
  | retired (name : Retired)
  deriving DecidableEq, Repr

namespace Summary

/-- The functions with their names. -/
def table : List (String × Summary) := [
  ("min", least),
  ("minDate", leastDate),
  ("max", greatest),
  ("maxDate", greatestDate),
  ("startDate", startDate),
  ("endDate", endDate),
  ("sum", sum),
  ("numTargets", targets),
  ("numDays", days),
  ("numDaysHavingData", daysPresent),
  ("maxStreak", longest true .length),
  ("maxStreakStart", longest true .first),
  ("maxStreakEnd", longest true .last),
  ("maxBreaks", longest false .length),
  ("maxBreaksStart", longest false .first),
  ("maxBreaksEnd", longest false .last),
  ("currentStreak", current true .length),
  ("currentStreakStart", current true .first),
  ("currentStreakEnd", current true .last),
  ("currentBreaks", current false .length),
  ("currentBreaksStart", current false .first),
  ("currentBreaksEnd", current false .last),
  ("average", average),
  ("median", median),
  ("variance", variance),
  ("count", retired .count),
  ("days", retired .days),
  ("lastStreak", retired .lastStreak)]

def ofName? (name : String) : Option Summary := (table.find? (·.1 == name)).map (·.2)

def total (xs : List Float) : Float := xs.foldl (· + ·) 0.0

/-- The middle of sorted numbers; of an even count, half the sum of the two middle ones. -/
def middle? (xs : List Float) : Option Float :=
  let n := xs.length
  if n % 2 = 1 then xs[n / 2]?
  else
    match xs[n / 2 - 1]?, xs[n / 2]? with
    | some a, some b => some ((a + b) / 2.0)
    | _, _ => none

/-- The last day on which a series has the given value. -/
def lastDayOf (s : Series) (x : Float) : Option Date :=
  (s.entries.reverse.find? fun e => match e.value with
    | some y => y == x
    | none => false).map (·.day)

def orFault (v : Option Value) (f : Fault) : Outcome Value :=
  match v with
  | some v => .ok v
  | none => .fault f

def day (d : Date) : Value := .moment (.day d)

/-- Which fault it is that a run has no first or last day. -/
def missing (isCurrent present isStart : Bool) : RunEnd :=
  match isCurrent, present, isStart with
  | false, true, true => .streakStart
  | false, true, false => .streakEnd
  | false, false, true => .breakStart
  | false, false, false => .breakEnd
  | true, true, true => .currentStreakStart
  | true, true, false => .currentStreakEnd
  | true, false, true => .currentBreakStart
  | true, false, false => .currentBreakEnd

def ofRun (isCurrent present : Bool) (r : Run) : RunPart → Outcome Value
  | .length => .ok (.number (Number.ofNat r.length))
  | .first => orFault (r.first.map day) (.noRun (missing isCurrent present true))
  | .last => orFault (r.last.map day) (.noRun (missing isCurrent present false))

/-- An integer as a number, which only has to be in range. -/
def ofInt (n : Int) : Outcome Value :=
  match Number.ofInt? n with
  | some x => .ok (.number x)
  | none => .abort .intTooLarge

/-- The figure of a series. The caller's defaults stand in for the days of an empty series. -/
def of (c : Context) (s : Series) : Summary → Outcome Value
  | least => orFault (s.stats.least.map .number) (.noData .least)
  | greatest => orFault (s.stats.greatest.map .number) (.noData .greatest)
  | leastDate => orFault ((s.stats.least.bind (lastDayOf s)).map day) (.noData .leastDate)
  | greatestDate => orFault ((s.stats.greatest.bind (lastDayOf s)).map day) (.noData .greatestDate)
  | startDate => orFault ((s.stats.firstDay.or c.startDate).map day) (.noData .startDate)
  | endDate => orFault ((s.stats.lastDay.or c.endDate).map day) (.noData .endDate)
  | sum => .ok (.number (total s.present))
  | targets => ofInt s.targets
  | days => .ok (.number (Number.ofNat s.length))
  | daysPresent => .ok (.number (Number.ofNat s.stats.count))
  -- of two equal streaks the later counts, of two equal breaks the earlier
  | longest present part => ofRun false present (Run.longest present present s.entries) part
  | current present part => ofRun true present (Run.current present s.entries) part
  | average =>
    if s.stats.count = 0 then .fault .divisionByZero
    else .ok (.number (total s.present / Number.ofNat s.stats.count))
  | median => orFault ((middle? (Number.sort s.present)).map .number) (.noData .median)
  | variance =>
    if s.present.length < 2 then .fault (.noData .variance)
    else
      match Number.variance? s.present with
      | some x => .ok (.number x)
      | none => .abort .quotientTooLarge
  | retired r => .fault (.retired r.text)

end Summary

end Daybook
