import Daybook.Operation
import Daybook.Reshape
import Daybook.Summary.Basic

/-!
Evaluating an expression on a registry. Parts are evaluated from left to right; the first fault
ends the evaluation and is its result. Every call is noted when its arguments have values.
-/

namespace Daybook

/-- What a name in front of parentheses means. -/
inductive Function
  | dataset
  | summary (s : Summary)
  | reshape (r : Reshape)
  deriving DecidableEq, Repr

def datasetName : String := "dataset"

def Function.ofName? (name : String) : Option Function :=
  if name = datasetName then some .dataset
  else
    match Summary.ofName? name with
    | some s => some (.summary s)
    | none => (Reshape.ofName? name).map .reshape

def isFunction (name : String) : Bool := (Function.ofName? name).isSome

/-- A call as the log of an evaluation has it. -/
structure CallNote where
  function : String
  count : Nat
  deriving DecidableEq, Repr

def CallNote.text (c : CallNote) : String :=
  "Calling '" ++ c.function ++ "' with " ++ Text.natText c.count ++ " argument(s)"

def Literal.toValue : Literal → Outcome Value
  | int n => Summary.ofInt n
  | float x => .ok (.number x)
  | bool b => .ok (.flag b)
  | text s => .ok (.text s)
  | none => .ok .none

def ofFault {α : Type} : Except Fault α → Outcome α
  | .ok v => .ok v
  | .error f => .fault f

namespace Registry

/-- The member that a number names. -/
def dataset (r : Registry) : List Value → Except Fault Value
  | [.number x] =>
    match (Number.whole? x).bind r.get? with
    | some (i, s) => .ok (.series s (.member i))
    | none => .error (.noSuchDataset x)
  | _ => .error .datasetArgument

/-- A figure of the given series, or of the first plotted one if none is given. -/
def summarise (r : Registry) (c : Context) (name : String) (s : Summary) :
    List Value → Outcome Value
  | [] =>
    match r.default? with
    | some t => s.of c t
    | none => .fault (.noDefaultDataset name)
  | [.series t _] => s.of c t
  | [v] => .fault (.datasetExpected name v.kind)
  | _ => .fault (.tooManyArguments name)

end Registry

def Reshape.call (name : String) (f : Reshape) : List Value → Except Fault Value
  | [] => .error (.datasetMissing name)
  | .series t _ :: args => f.of t (args.map .ok)
  | v :: _ => .error (.datasetExpected name v.kind)

/-- Calls the function of the given name on values. -/
def call (r : Registry) (c : Context) (name : String) (args : List Value) : Outcome Value :=
  match Function.ofName? name with
  | some .dataset => ofFault (r.dataset args)
  | some (.summary s) => r.summarise c name s args
  | some (.reshape f) => ofFault (f.call name args)
  | none => .fault (.unknownFunction name)

namespace Expr

variable (r : Registry) (c : Context)

mutual

/-- The calls that an evaluation makes, in order, and its result. -/
def run : Expr → List CallNote × Outcome Value
  | lit l => ([], l.toValue)
  | name w => ([], .fault (if isFunction w then .bareName w else .unknownFunction w))
  | unary s e =>
    match run e with
    | (notes, .ok v) => (notes, ofFault (s.apply (.ok v)))
    | stopped => stopped
  | binary o a b =>
    match run a with
    | (notes, .ok v) =>
      match run b with
      | (more, .ok w) => (notes ++ more, ofFault (o.apply (.ok v) (.ok w)))
      | (more, .error stop) => (notes ++ more, .error stop)
    | stopped => stopped
  | .call f args =>
    match runAll args with
    | (notes, .ok vs) => (notes ++ [⟨f, vs.length⟩], Daybook.call r c f vs)
    | (notes, .error stop) => (notes, .error stop)

def runAll : List Expr → List CallNote × Outcome (List Value)
  | [] => ([], .ok [])
  | e :: es =>
    match run e with
    | (notes, .ok v) =>
      match runAll es with
      | (more, .ok vs) => (notes ++ more, .ok (v :: vs))
      | (more, .error stop) => (notes ++ more, .error stop)
    | (notes, .error stop) => (notes, .error stop)

end

def evaluate (e : Expr) : Outcome Value := (run r c e).2

end Expr

end Daybook
