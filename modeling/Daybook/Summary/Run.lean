import Daybook.Series.Basic

/-!
Runs of days: stretches of consecutive entries that are all present, or all absent. A series has
a longest run and a current one, which ends on its last day.
-/

namespace Daybook

/-- A run with its number of days; an empty run has no first and last day. -/
structure Run where
  length : Nat := 0
  first : Option Date := none
  last : Option Date := none
  deriving DecidableEq

namespace Run

/-- A run with one more day at its end. -/
def extend (r : Run) (day : Date) : Run where
  length := r.length + 1
  first := r.first.or (some day)
  last := some day

/-- The better of the best run so far and one that has grown: the longer one, and of two equal
ones the earlier or the later. -/
def better (preferLater : Bool) (best grown : Run) : Run :=
  if best.length < grown.length ∨ (preferLater ∧ best.length = grown.length) then grown else best

/-- Passes over one entry with the best run and the one that may go on. -/
def step (present preferLater : Bool) (state : Run × Run) (e : Entry) : Run × Run :=
  if e.isPresent = present then
    let grown := state.2.extend e.day
    (better preferLater state.1 grown, grown)
  else (state.1, {})

/-- The longest run of present, or of absent, days. -/
def longest (present preferLater : Bool) (es : List Entry) : Run :=
  (es.foldl (step present preferLater) ({}, {})).1

def ofEntries (es : List Entry) : Run := es.foldl (fun r e => r.extend e.day) {}

/-- The run of present, or of absent, days that ends on the last day. -/
def current (present : Bool) (es : List Entry) : Run :=
  ofEntries (es.reverse.takeWhile fun e => e.isPresent == present).reverse

end Run

end Daybook
