import Daybook.Text.Points

/-!
Values of the JSON data format. Whole numbers and doubles are different kinds of numbers, and
the fields of an object keep their order.
-/

namespace Daybook

inductive Json
  | null
  | bool (value : Bool)
  | int (value : Int)
  | float (value : Float)
  | text (value : Points)
  | array (items : List Json)
  | object (fields : List (Points × Json))
  deriving Inhabited

namespace Json

def lookup (key : Points) : List (Points × Json) → Option Json
  | [] => none
  | (k, v) :: fields => if k = key then some v else lookup key fields

/-- Sets a field: a known one keeps its place, a new one goes to the end. -/
def put (key : Points) (value : Json) : List (Points × Json) → List (Points × Json)
  | [] => [(key, value)]
  | (k, v) :: fields => if k = key then (k, value) :: fields else (k, v) :: put key value fields

mutual

/-- Whether two values are equal. As among doubles, what is not a number equals nothing. -/
def same : Json → Json → Bool
  | .null, .null => true
  | .bool a, .bool b => a == b
  | .int a, .int b => a == b
  | .float a, .float b => a == b
  | .text a, .text b => a == b
  | .array xs, .array ys => sameItems xs ys
  | .object xs, .object ys => sameFields xs ys
  | _, _ => false

def sameItems : List Json → List Json → Bool
  | [], [] => true
  | x :: xs, y :: ys => same x y && sameItems xs ys
  | _, _ => false

def sameFields : List (Points × Json) → List (Points × Json) → Bool
  | [], [] => true
  | (k, x) :: xs, (l, y) :: ys => k == l && same x y && sameFields xs ys
  | _, _ => false

end

mutual

/-- The value with the fields of every object in the order of their keys. -/
def sorted : Json → Json
  | .array xs => .array (sortedItems xs)
  | .object fs => .object ((sortedFields fs).mergeSort fun a b => a.1.le b.1)
  | j => j

def sortedItems : List Json → List Json
  | [] => []
  | x :: xs => sorted x :: sortedItems xs

def sortedFields : List (Points × Json) → List (Points × Json)
  | [] => []
  | (k, x) :: xs => (k, sorted x) :: sortedFields xs

end

end Json

end Daybook
