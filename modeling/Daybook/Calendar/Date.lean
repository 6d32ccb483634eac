/-!
Days of the civil calendar, from the first of January of year 1 to the last of December of
year 9999. A day knows its place in the order of days and the day after it.
-/

namespace Daybook

def isLeap (y : Nat) : Bool := y % 4 == 0 && (y % 100 != 0 || y % 400 == 0)

def monthLength (y m : Nat) : Nat :=
  match m with
  | 2 => if isLeap y then 29 else 28
  | 4 | 6 | 9 | 11 => 30
  | _ => 31

def yearLength (y : Nat) : Nat := if isLeap y then 366 else 365

/-- Days of the year before the first of month `m`. -/
def daysBeforeMonth (y : Nat) : Nat → Nat
  | 0 => 0
  | 1 => 0
  | m + 2 => daysBeforeMonth y (m + 1) + monthLength y (m + 1)

/-- Days of the calendar before the first of January of year `y`. -/
def daysBeforeYear (y : Nat) : Nat :=
  let p := y - 1
  365 * p + p / 4 - p / 100 + p / 400

structure Date where
  year : Nat
  month : Nat
  day : Nat
  year_pos : 1 ≤ year
  year_le : year ≤ 9999
  month_pos : 1 ≤ month
  month_le : month ≤ 12
  day_pos : 1 ≤ day
  day_le : day ≤ monthLength year month
  deriving DecidableEq

namespace Date

/-- The day with the given numbers, if there is one. -/
def of? (y m d : Nat) : Option Date :=
  if h : 1 ≤ y ∧ y ≤ 9999 ∧ 1 ≤ m ∧ m ≤ 12 ∧ 1 ≤ d ∧ d ≤ monthLength y m then
    some ⟨y, m, d, h.1, h.2.1, h.2.2.1, h.2.2.2.1, h.2.2.2.2.1, h.2.2.2.2.2⟩
  else none

/-- The number of the day, counted from 1 for the first day of the calendar. -/
def ordinal (d : Date) : Nat := daysBeforeYear d.year + daysBeforeMonth d.year d.month + d.day

instance : LT Date := ⟨fun a b => a.ordinal < b.ordinal⟩

instance : LE Date := ⟨fun a b => a.ordinal ≤ b.ordinal⟩

instance (a b : Date) : Decidable (a < b) := inferInstanceAs (Decidable (a.ordinal < b.ordinal))

instance (a b : Date) : Decidable (a ≤ b) := inferInstanceAs (Decidable (a.ordinal ≤ b.ordinal))

/-- The day of the week, 0 for Monday. The first day of the calendar is a Monday. -/
def weekday (d : Date) : Nat := (d.ordinal + 6) % 7

theorem monthLength_pos (y m : Nat) : 1 ≤ monthLength y m := by
  unfold monthLength
  split
  · split <;> omega
  all_goals omega

/-- The day after, which the last day of the calendar does not have. -/
def next? (d : Date) : Option Date :=
  if hd : d.day < monthLength d.year d.month then
    some { d with day := d.day + 1, day_pos := by omega, day_le := hd }
  else if hm : d.month < 12 then
    some { d with
      month := d.month + 1, day := 1, month_pos := by omega, month_le := by omega
      day_pos := by omega, day_le := monthLength_pos _ _ }
  else if hy : d.year < 9999 then
    some {
      year := d.year + 1, month := 1, day := 1, year_pos := by omega, year_le := by omega
      month_pos := by omega, month_le := by omega, day_pos := by omega
      day_le := monthLength_pos _ _ }
  else none

/-- The given number of days in a row, from `d` on, as far as the calendar goes. -/
def run (d : Date) : Nat → List Date
  | 0 => []
  | n + 1 => d :: match d.next? with
    | some e => run e n
    | none => []

def range (a b : Date) : List Date := a.run (b.ordinal + 1 - a.ordinal)

/-- The `n`th day of year `y`, looked for from month `12 - k` on. -/
def ofYearDayFrom (y : Nat) : Nat → Nat → Option Date
  | 0, _ => none
  | k + 1, n =>
    let m := 12 - k
    if n ≤ monthLength y m then of? y m n else ofYearDayFrom y k (n - monthLength y m)

/-- The `n`th day of year `y`, counted from 1. -/
def ofYearDay? (y n : Nat) : Option Date := ofYearDayFrom y 12 n

end Date

end Daybook
