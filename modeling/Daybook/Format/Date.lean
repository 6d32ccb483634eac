import Daybook.Calendar.Moment

/-!
Writing a day or an instant by a pattern of tokens such as `YYYY-MM-DD`. Text in square brackets
is copied, and so is every character that begins no token.
-/

namespace Daybook.Format

open Text

def monthNames : List String := ["January", "February", "March", "April", "May", "June", "July",
  "August", "September", "October", "November", "December"]

def weekdayNames : List String := ["Monday", "Tuesday", "Wednesday", "Thursday", "Friday",
  "Saturday", "Sunday"]

def monthName (d : Date) : List Char := (monthNames.getD (d.month - 1) "").toList

def weekdayName (d : Date) : List Char := (weekdayNames.getD d.weekday "").toList

/-- A number as an ordinal: 1st, 2nd, 3rd, 11th. -/
def ordinalChars (n : Nat) : List Char :=
  let ending :=
    if 11 ≤ n % 100 ∧ n % 100 ≤ 13 then ['t', 'h']
    else match n % 10 with
      | 1 => ['s', 't']
      | 2 => ['n', 'd']
      | 3 => ['r', 'd']
      | _ => ['t', 'h']
  natDigits n ++ ending

/-- The hour on a clock face, from 1 to 12. -/
def faceHour (hour : Nat) : Nat := if hour % 12 = 0 then 12 else hour % 12

/-- What a token of a pattern stands for. -/
inductive DateToken
  | literal (text : List Char)
  | year | shortYear
  | month | monthPadded | monthShort | monthLong
  | day | dayPadded | dayOrdinal
  | weekdayShort | weekdayLong
  | hour | hourPadded | faceHour | faceHourPadded
  | minute | minutePadded | second | secondPadded
  | halfCapital | halfSmall
  deriving DecidableEq, Repr

def DateToken.chars (m : Moment) : DateToken → List Char
  | literal t => t
  | year => paddedNat 4 m.date.year
  | shortYear => paddedNat 2 (m.date.year % 100)
  | month => natDigits m.date.month
  | monthPadded => paddedNat 2 m.date.month
  | monthShort => (monthName m.date).take 3
  | monthLong => monthName m.date
  | day => natDigits m.date.day
  | dayPadded => paddedNat 2 m.date.day
  | dayOrdinal => ordinalChars m.date.day
  | weekdayShort => (weekdayName m.date).take 3
  | weekdayLong => weekdayName m.date
  | hour => natDigits m.clock.hour
  | hourPadded => paddedNat 2 m.clock.hour
  | faceHour => natDigits (Format.faceHour m.clock.hour)
  | faceHourPadded => paddedNat 2 (Format.faceHour m.clock.hour)
  | minute => natDigits m.clock.minute
  | minutePadded => paddedNat 2 m.clock.minute
  | second => natDigits m.clock.second
  | secondPadded => paddedNat 2 m.clock.second
  | halfCapital => if m.clock.hour.val < 12 then ['A', 'M'] else ['P', 'M']
  | halfSmall => if m.clock.hour.val < 12 then ['a', 'm'] else ['p', 'm']

/-- The token that a pattern begins with and its length. Of two tokens the longer one counts; an
opening bracket begins a token only if there is a closing one. -/
def firstToken (c : Char) (rest : List Char) : DateToken × Nat :=
  match c, rest with
  | '[', _ =>
    if ']' ∈ rest then
      let t := rest.takeWhile (· != ']')
      (.literal t, t.length + 2)
    else (.literal ['['], 1)
  | 'Y', 'Y' :: 'Y' :: 'Y' :: _ => (.year, 4)
  | 'Y', 'Y' :: _ => (.shortYear, 2)
  | 'M', 'M' :: 'M' :: 'M' :: _ => (.monthLong, 4)
  | 'M', 'M' :: 'M' :: _ => (.monthShort, 3)
  | 'M', 'M' :: _ => (.monthPadded, 2)
  | 'M', _ => (.month, 1)
  | 'D', 'o' :: _ => (.dayOrdinal, 2)
  | 'D', 'D' :: _ => (.dayPadded, 2)
  | 'D', _ => (.day, 1)
  | 'd', 'd' :: 'd' :: 'd' :: _ => (.weekdayLong, 4)
  | 'd', 'd' :: 'd' :: _ => (.weekdayShort, 3)
  | 'H', 'H' :: _ => (.hourPadded, 2)
  | 'H', _ => (.hour, 1)
  | 'h', 'h' :: _ => (.faceHourPadded, 2)
  | 'h', _ => (.faceHour, 1)
  | 'm', 'm' :: _ => (.minutePadded, 2)
  | 'm', _ => (.minute, 1)
  | 's', 's' :: _ => (.secondPadded, 2)
  | 's', _ => (.second, 1)
  | 'A', _ => (.halfCapital, 1)
  | 'a', _ => (.halfSmall, 1)
  | c, _ => (.literal [c], 1)

/-- Writes a pattern. The first number counts the characters of the last token that are still to
be passed over. -/
def patternFrom (m : Moment) : Nat → List Char → List Char
  | _, [] => []
  | n + 1, _ :: cs => patternFrom m n cs
  | 0, c :: cs =>
    let (t, len) := firstToken c cs
    t.chars m ++ patternFrom m (len - 1) cs

/-- The one format that is a name and no pattern, in any case and between blanks. -/
def isPlainName (format : List Char) : Bool :=
  lower (trim format) == ['i', 's', 'o', '-', '8', '6', '0', '1']

def moment (format : List Char) (m : Moment) : List Char :=
  if isPlainName format then m.chars else patternFrom m 0 format

end Daybook.Format
