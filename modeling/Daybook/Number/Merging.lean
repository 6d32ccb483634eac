import Daybook.Number.Binary

/-!
Merging two lists of doubles in rising order. As long as all of them are numbers the result is
the usual one; what is not a number is smaller than nothing, and its place hangs on how a merge
proceeds: number by number, and by whole stretches once one list has been ahead for long.
-/

namespace Daybook.Number

/-- A merge starts at the front of two lists, or at their ends, which are then given in reverse. -/
inductive Side
  | front
  | back
  deriving DecidableEq, Repr

/-- Whether `x` comes before `y` when a merge proceeds from this side. -/
def Side.before : Side → Float → Float → Bool
  | front, x, y => decide (x < y)
  | back, x, y => decide (y < x)

/-- The middle of an interval that is not empty. -/
def Side.middle : Side → Nat → Nat → Nat
  | front, lo, hi => (lo + hi) / 2
  | back, lo, hi => lo + (hi - lo - 1) / 2

variable (side : Side)

/-- The end of the numbers that fit, by halving the interval from `lo` to `hi`. -/
def endWithin (fits : Float → Bool) (xs : List Float) : Nat → Nat → Nat → Nat
  | 0, lo, _ => lo
  | k + 1, lo, hi =>
    if hi ≤ lo then lo
    else
      let mid := side.middle lo hi
      if fits (xs.getD mid 0.0) then endWithin fits xs k (mid + 1) hi
      else endWithin fits xs k lo mid

/-- An interval that holds the end of the numbers that fit, found in growing strides from a place
that fits. -/
def strides (fits : Float → Bool) (xs : List Float) : Nat → Nat → Nat → Nat × Nat
  | 0, last, next => (last + 1, min next xs.length)
  | k + 1, last, next =>
    if next < xs.length && fits (xs.getD next 0.0) then strides fits xs k next (2 * next + 1)
    else (last + 1, min next xs.length)

/-- How many numbers at the beginning of a list fit, if all that fit stand before all others. -/
def leading (fits : Float → Bool) (xs : List Float) : Nat :=
  if (xs.head?.map fits).getD false then
    let (lo, hi) := strides fits xs xs.length 0 1
    endWithin side fits xs xs.length lo hi
  else 0

/-- Two lists of which the second goes first where it can. -/
abbrev Pair := List Float × List Float

/-- Nothing is left to compare: the second list is used up, or the first but for one number. -/
def settled : Pair → Bool
  | ([], _) | ([_], _) | (_, []) => true
  | _ => false

/-- What is taken from two lists in one step, how much of it in a stretch, and what is left. -/
abbrev Taken := List Float × Nat × Pair

/-- Takes the numbers of the first list that do not have to follow the second list's first one,
and then that one. -/
def takeFirst : Pair → Taken
  | (as, b :: bs) =>
    let n := leading side (fun a => !side.before b a) as
    let rest := as.drop n
    if settled (rest, b :: bs) then (as.take n, n, rest, b :: bs)
    else (as.take n ++ [b], n, rest, bs)
  | p => ([], 0, p)

/-- Takes the numbers of the second list that come before the first list's first one, and then
that one. -/
def takeSecond : Pair → Taken
  | (a :: as, bs) =>
    let n := leading side (fun b => side.before b a) bs
    let rest := bs.drop n
    if settled (a :: as, rest) then (bs.take n, n, a :: as, rest)
    else (bs.take n ++ [a], n, as, rest)
  | p => ([], 0, p)

/-- How a merge proceeds: number by number, with how often in a row either list was ahead, or by
stretches, for the first time or again. -/
inductive Pace
  | single (first second : Nat)
  | stretches (again : Bool)

/-- The stretch that makes stretches worth while. -/
def longStretch : Nat := 7

/-- Merges two lists. `patience` says how often in a row a list has to be ahead until stretches
are tried; it falls where they do well and grows where they do not, and is returned for the next
merge. The first argument bounds the number of steps. -/
def mergeAt : Nat → Pace → Nat → Pair → List Float × Nat
  | n + 1, .single first second, patience, (a₁ :: a₂ :: as, b :: bs) =>
    if side.before b a₁ then
      let pace := if patience ≤ second + 1 then .stretches false else .single 0 (second + 1)
      let (xs, patience) := mergeAt n pace patience (a₁ :: a₂ :: as, bs)
      (b :: xs, patience)
    else
      let pace := if patience ≤ first + 1 then .stretches false else .single (first + 1) 0
      let (xs, patience) := mergeAt n pace patience (a₂ :: as, b :: bs)
      (a₁ :: xs, patience)
  | n + 1, .stretches again, patience, (a₁ :: a₂ :: as, b :: bs) =>
    let patience := if again then max 1 (patience - 1) else patience
    let (step, step') := match side with
      | .front => (takeFirst side, takeSecond side)
      | .back => (takeSecond side, takeFirst side)
    let (taken, k, rest) := step (a₁ :: a₂ :: as, b :: bs)
    if settled rest then (taken ++ rest.2 ++ rest.1, patience)
    else
      let (taken', k', rest) := step' rest
      if settled rest then (taken ++ taken' ++ rest.2 ++ rest.1, patience)
      else
        let (xs, patience) :=
          if longStretch ≤ k ∨ longStretch ≤ k' then mergeAt n (.stretches true) patience rest
          else mergeAt n (.single 0 0) (patience + 1) rest
        (taken ++ taken' ++ xs, patience)
  | _, _, patience, (as, bs) => (bs ++ as, patience)

/-- Merges two lists of which the second is known to go first. -/
def mergeFrom (patience : Nat) : Pair → List Float × Nat
  | (as, b :: bs) =>
    let (xs, patience) := mergeAt side (as.length + bs.length + 1) (.single 0 0) patience (as, bs)
    (b :: xs, patience)
  | (as, []) => (as, patience)

/-- Joins two neighbouring lists. What stands in its place already is left out of the merge, which
proceeds from the side of the shorter list. -/
def joinRuns (patience : Nat) (as bs : List Float) : List Float × Nat :=
  match bs with
  | [] => (as, patience)
  | b :: _ =>
    let n := leading .front (fun a => !Side.front.before b a) as
    let (low, as) := (as.take n, as.drop n)
    match as.getLast? with
    | none => (low ++ bs, patience)
    | some a =>
      let m := bs.length - leading .back (fun b => !Side.back.before a b) bs.reverse
      let (bs, high) := (bs.take m, bs.drop m)
      let (xs, patience) :=
        if as.length ≤ bs.length then mergeFrom .front patience (as, bs)
        else
          let (xs, patience) := mergeFrom .back patience (bs.reverse, as.reverse)
          (xs.reverse, patience)
      (low ++ xs ++ high, patience)

end Daybook.Number
