import Daybook.Calendar.Moment
import Daybook.Number.Numeral

/-!
Reading a day from a written date: year, year and month, full dates with and without dashes, week
dates and ordinal dates, each perhaps followed by one separating character and a time of day.
The time is checked and dropped, except that hour 24 is the beginning of the next day.
-/

namespace Daybook.Iso

open Text

/-- Why a written date is none. -/
inductive Fault
  /-- It is not in one of the known forms, or names a day or time that does not exist. -/
  | malformed
  /-- It names a day after the last day of the calendar. -/
  | pastCalendar
  deriving DecidableEq, Repr

/-- White space inside a field of digits. -/
def isFieldBlank (c : Char) : Bool := c == ' ' || (9 ≤ c.toNat && c.toNat ≤ 13)

/-- A whole number in a field of fixed width: a sign, blanks around it and underscores between
its digits are allowed. -/
def field? (cs : List Char) : Option Int :=
  let cs := ((cs.dropWhile isFieldBlank).reverse.dropWhile isFieldBlank).reverse
  let (neg, body) := Number.takeSign cs
  match Number.digitRun digit? body with
  | ([], _) => none
  | (ds, []) => some (Number.withSign neg (ofDigits 10 ds))
  | _ => none

/-- Year, month and day as written, and what follows them. -/
abbrev Fields := (Int × Int × Int) × List Char

/-- `YYYY`, `YYYY-MM`, `YYYY-MM-DD` or `YYYYMMDD`; the numbers are not checked here. -/
def commonDate? (cs : List Char) : Option Fields := do
  if cs.length < 4 then none
  let y ← field? (cs.take 4)
  match cs.drop 4 with
  | [] => some ((y, 1, 1), [])
  | '-' :: rest =>
    if rest.length < 2 then none
    let m ← field? (rest.take 2)
    match rest.drop 2 with
    | [] => some ((y, m, 1), [])
    | '-' :: rest =>
      if rest.length < 2 then none
      let d ← field? (rest.take 2)
      some ((y, m, d), rest.drop 2)
    | _ => none
  | rest =>
    let m ← field? (rest.take 2)
    let rest := rest.drop 2
    if rest.length < 2 then none
    let d ← field? (rest.take 2)
    some ((y, m, d), rest.drop 2)

def valid? (y m d : Int) : Option Date :=
  if 0 ≤ y ∧ 0 ≤ m ∧ 0 ≤ d then Date.of? y.toNat m.toNat d.toNat else none

/-- The day of a week date. The first week of a year holds the fourth of January, and weeks
begin on Monday. -/
def weekDate (y week day : Int) : Except Fault Date :=
  if week < 1 ∨ 53 < week ∨ day < 1 ∨ 7 < day then .error .malformed
  else
    match valid? y 1 4 with
    | none => .error .malformed
    | some jan4 =>
      -- the day counted from the first of January, which is 1
      let n : Int := 4 - jan4.weekday + 7 * (week - 1) + (day - 1)
      let year := jan4.year
      let found :=
        if n < 1 then Date.of? (year - 1) 12 (31 + n).toNat
        else if n ≤ yearLength year then Date.ofYearDay? year n.toNat
        else Date.ofYearDay? (year + 1) (n - yearLength year).toNat
      match found with
      | some d => .ok d
      | none => .error .pastCalendar

/-- The `n`th day of a year. -/
def ordinalDate (y n : Int) : Except Fault Date :=
  match valid? y 1 1 with
  | none => .error .malformed
  | some jan1 =>
    if n < 1 ∨ yearLength jan1.year < n then .error .malformed
    else match Date.ofYearDay? jan1.year n.toNat with
      | some d => .ok d
      | none => .error .malformed

def field (cs : List Char) : Except Fault Int :=
  match field? cs with
  | some n => .ok n
  | none => .error .malformed

/-- Week dates `YYYY-Www-D` and ordinal dates `YYYY-DDD`, with and without dashes. -/
def uncommonDate (cs : List Char) : Except Fault (Date × List Char) := do
  if cs.length < 4 then throw .malformed
  let y ← field (cs.take 4)
  let (dashed, rest) := match cs.drop 4 with
    | '-' :: rest => (true, rest)
    | rest => (false, rest)
  match rest with
  | 'W' :: rest =>
    let week ← field (rest.take 2)
    match rest.drop 2 with
    | [] => return (← weekDate y week 1, [])
    | c :: more =>
      if (c == '-') != dashed then throw .malformed
      let more := if dashed then more else c :: more
      let day ← field (more.take 1)
      return (← weekDate y week day, more.drop 1)
  | _ =>
    if rest.length < 3 then throw .malformed
    let n ← field (rest.take 3)
    return (← ordinalDate y n, rest.drop 3)

/-- A time as written: hour, minute, second and millionths, not checked yet. -/
structure RawTime where
  hour : Int
  minute : Int
  second : Int
  micro : Int

/-- Whether a signed distance from universal time, given without its sign, is well formed:
hours, perhaps with minutes after an optional colon. -/
def offsetOk (cs : List Char) : Bool :=
  let minutes := match cs.drop 2 with
    | [] => some 0
    | ':' :: rest => field? rest
    | rest => field? rest
  (cs.length == 2 || cs.length == 4 || cs.length == 5) &&
    match field? (cs.take 2), minutes with
    | some h, some m => decide (h ≤ 23 ∧ m ≤ 59)
    | _, _ => false

/-- Whether a distance from universal time is well formed: `Z`, or a sign and an offset. -/
def zoneOk : List Char → Bool
  | [] => false
  | c :: cs => if c == 'Z' || c == 'z' then cs.isEmpty else (c == '-' || c == '+') && offsetOk cs

def isZoneStart (c : Char) : Bool := c == '-' || c == '+' || c == 'Z' || c == 'z'

/-- Ends a time with nothing or with a distance from universal time. -/
def endTime (t : RawTime) (cs : List Char) : Except Fault RawTime :=
  match cs with
  | [] => .ok t
  | c :: _ => if isZoneStart c && zoneOk cs then .ok t else .error .malformed

/-- A fraction of a second, cut after six digits. -/
def fraction (t : RawTime) (cs : List Char) : Except Fault RawTime :=
  match cs with
  | c :: rest =>
    if c = '.' ∨ c = ',' then
      let ds := rest.takeWhile isDigit
      if ds = [] then .error .malformed
      else
        let six := (ds.take 6).filterMap digit?
        let micro := ofDigits 10 six * Number.pow10 (6 - six.length)
        endTime { t with micro } (rest.dropWhile isDigit)
    else endTime t cs
  | [] => .ok t

/-- The seconds, after a colon if the minutes were. -/
def seconds (t : RawTime) (colon : Bool) (cs : List Char) : Except Fault RawTime := do
  match cs with
  | [] => return t
  | c :: rest =>
    if isZoneStart c then endTime t cs
    else
      if colon && c != ':' then throw .malformed
      let cs := if colon then rest else cs
      let s ← field (cs.take 2)
      fraction { t with second := s } (cs.drop 2)

def minutes (t : RawTime) (cs : List Char) : Except Fault RawTime := do
  match cs with
  | [] => return t
  | c :: rest =>
    if isZoneStart c then endTime t cs
    else
      let colon := c == ':'
      let cs := if colon then rest else cs
      let m ← field (cs.take 2)
      seconds { t with minute := m } colon (cs.drop 2)

/-- A written time: hours, then perhaps minutes, seconds, a fraction and a zone. -/
def time (cs : List Char) : Except Fault RawTime := do
  if cs.length < 2 then throw .malformed
  let t : RawTime := ⟨0, 0, 0, 0⟩
  if (cs.head?.map isZoneStart).getD false then endTime t cs
  else
    let h ← field (cs.take 2)
    minutes { t with hour := h } (cs.drop 2)

/-- The day that a date with this time falls on. -/
def RawTime.on (t : RawTime) (d : Date) : Except Fault Date :=
  if t.hour = 24 then
    if t.minute = 0 ∧ t.second = 0 ∧ t.micro = 0 then
      match d.next? with
      | some e => .ok e
      | none => .error .pastCalendar
    else .error .malformed
  else if 0 ≤ t.hour ∧ t.hour < 24 ∧ 0 ≤ t.minute ∧ t.minute < 60 ∧
      0 ≤ t.second ∧ t.second < 60 then
    .ok d
  else .error .malformed

/-- Reads the day that a written date names. -/
def read (cs : List Char) : Except Fault Date := do
  if cs.any fun c => 128 ≤ c.toNat then throw .malformed
  let (found, rest) ← match commonDate? cs with
    | some ((y, m, d), rest) => pure (valid? y m d, rest)
    | none => do
      let (d, rest) ← uncommonDate cs
      pure (some d, rest)
  -- the time is read before the day is checked
  let t : RawTime ← match rest with
    | [] => pure ⟨0, 0, 0, 0⟩
    | _ :: cs => time cs
  match found with
  | none => throw .malformed
  | some d => t.on d

end Daybook.Iso
