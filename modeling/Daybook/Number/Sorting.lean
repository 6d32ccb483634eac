import Daybook.Number.Merging

/-!
Sorting doubles by size. The order that results is the usual one as long as all of them are
numbers; what is not a number is smaller than nothing, and its place hangs on the method.
-/

namespace Daybook.Number

/-- The beginning of a list in which every number is smaller than the one before, the last one
first, and what follows; the first argument holds the numbers taken so far. -/
def fallingRun (a : Float) (taken : List Float) : List Float → List Float × List Float
  | [] => (a :: taken, [])
  | b :: xs => if b < a then fallingRun b (a :: taken) xs else (a :: taken, b :: xs)

/-- The beginning of a list in which no number is smaller than the one before, the last one
first, and what follows. -/
def risingRun (a : Float) (taken : List Float) : List Float → List Float × List Float
  | [] => (a :: taken, [])
  | b :: xs => if b < a then (a :: taken, b :: xs) else risingRun b (a :: taken) xs

/-- The first run of a list in rising order, and what follows. -/
def firstRun : List Float → List Float × List Float
  | [] => ([], [])
  | [a] => ([a], [])
  | a :: b :: xs =>
    if b < a then fallingRun b [a] xs
    else
      let (run, rest) := risingRun b [a] xs
      (run.reverse, rest)

/-- Puts a number into a list in rising order, behind those that are not greater. -/
def insertSorted (xs : List Float) (x : Float) : List Float :=
  let i := endWithin .front (fun y => !decide (x < y)) xs xs.length 0 xs.length
  xs.take i ++ x :: xs.drop i

/-! ### Runs -/

/-- How long a run has to be at least: a short list is one run, a longer one is halved until it is
short, and runs are longer by one if that loses a remainder. -/
def leastRun (lost : Bool) (n : Nat) : Nat :=
  if n < 64 then n + lost.toNat else leastRun (lost || n % 2 == 1) (n / 2)
termination_by n

/-- The first run of a list, made long enough by inserting the numbers that follow it, and the
rest. -/
def cutRun (least : Nat) (xs : List Float) : List Float × List Float :=
  let (run, rest) := firstRun xs
  let more := least - run.length
  ((rest.take more).foldl insertSorted run, rest.drop more)

/-- A run that waits to be merged: where it begins, its numbers, and how deep its border with the
run before it lies. -/
structure Run where
  start : Nat
  items : List Float
  depth : Nat

/-- How often a list has to be halved until a border falls between the middles of two neighbouring
runs. The middles and the length of the list are given twice as large as they are; the first
argument bounds the answer. -/
def borderDepth (size : Nat) : Nat → Nat → Nat → Nat
  | 0, _, _ => 0
  | k + 1, a, b =>
    if size ≤ a then borderDepth size k (2 * (a - size)) (2 * (b - size)) + 1
    else if size ≤ b then 1
    else borderDepth size k (2 * a) (2 * b) + 1

/-- Merges the last run with those before it as long as their borders lie deeper than the next. -/
def mergeDeeper (depth patience : Nat) (last : Run) : List Run → Run × List Run × Nat
  | [] => (last, [], patience)
  | run :: runs =>
    if depth < last.depth then
      let (xs, patience) := joinRuns patience run.items last.items
      mergeDeeper depth patience { run with items := xs } runs
    else (last, run :: runs, patience)

/-- Cuts a list into runs and merges some of them on the way. The runs are the last one first. The
first argument bounds the number of runs. -/
def takeRuns (size : Nat) : Nat → Nat → List Run → List Float → List Run × Nat
  | 0, patience, runs, _ | _, patience, runs, [] => (runs, patience)
  | k + 1, patience, runs, x :: xs =>
    let (items, rest) := cutRun (leastRun false size) (x :: xs)
    match runs with
    | [] => takeRuns size k patience [⟨0, items, 0⟩] rest
    | last :: runs =>
      let middle := 2 * last.start + last.items.length
      let depth := borderDepth size size middle (middle + last.items.length + items.length)
      let (last, runs, patience) := mergeDeeper depth patience last runs
      let run := ⟨last.start + last.items.length, items, depth⟩
      takeRuns size k patience (run :: last :: runs) rest

/-- Merges the last runs, the last one first, until one is left. A run between two others goes to
the shorter one. -/
def mergeRuns (patience : Nat) : List Run → List Float
  | [] => []
  | [a] => a.items
  | [b, a] => (joinRuns patience a.items b.items).1
  | c :: b :: a :: runs =>
    if a.items.length < c.items.length then
      let (xs, patience) := joinRuns patience a.items b.items
      mergeRuns patience (c :: { a with items := xs } :: runs)
    else
      let (xs, patience) := joinRuns patience b.items c.items
      mergeRuns patience ({ b with items := xs } :: a :: runs)
termination_by runs => runs.length

/-- Sorts by merging runs. -/
def sortByRuns (xs : List Float) : List Float :=
  let (runs, patience) := takeRuns xs.length xs.length longStretch [] xs
  mergeRuns patience runs

/-- The numbers in rising order; equal ones keep their order. -/
def sort (xs : List Float) : List Float :=
  if xs.any isNaN then sortByRuns xs else xs.mergeSort fun a b => !decide (b < a)

end Daybook.Number
