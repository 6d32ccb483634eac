import Daybook.Series.Edit
import Daybook.Template.Render

/-!
A session works on a registry and on all series that it has come to know, registered or not.
Each known series has a slot, and the registry lists slots, so that a change to a series is seen
wherever it is used. A refused step changes nothing.
-/

namespace Daybook

structure Session where
  axis : List Date
  context : Context := {}
  /-- All series, in the order in which they came to be known. -/
  slots : List Series := []
  /-- The slots of the registered series, in the order of their registration. -/
  members : List Nat := []

/-- What a step operates on: a known series or something given. -/
inductive SessionOperand
  | slot (i : Nat)
  | given (o : Operand)

inductive Step
  | create (id : Int) (name : Option Points) (measure : Measure) (usedAsX : Bool)
  | new (axis : Option (List Date)) (values : Option (List (Option Float))) (id : Int)
      (name : Points) (measure : Measure) (usedAsX : Bool) (targets : Int)
  | add (s : Nat)
  | clone (s : Nat)
  | withValues (s : Nat) (values : List (Option Float))
  | getValue (s : Nat) (day : Date) (shift : Int)
  | setValue (s : Nat) (day : Date) (x : Float)
  | addTargets (s : Nat) (n : Int)
  | shiftValues (s : Nat) (amount : Float) (threshold : Option Float)
  | fillMissing (s : Nat) (x : Float)
  | accumulate (s : Nat)
  | recalculate (s : Nat)
  | entries (s : Nat)
  | present (s : Nat)
  | describe (s : Nat)
  | sharesAxis (s t : Nat)
  | get (id : Int)
  | default
  | indexOf (day : Date)
  | registry
  | binary (operator : String) (a b : SessionOperand)
  | unary (operator : String) (a : SessionOperand)
  | summarise (s : Nat) (function : Summary)
  | reshape (s : Nat) (function : Reshape) (args : List SessionOperand)
  | evaluate (text : List Char)
  | render (text : List Char)

/-- What a step answers. -/
inductive Reply
  | nothing
  | slot (i : Nat)
  | place (i : Option Nat)
  | index (i : Int)
  | flag (b : Bool)
  | amount (x : Option Float)
  | amounts (xs : List Float)
  | entries (es : List Entry)
  | text (s : String)
  | value (v : Outcome Value)
  | rendered (cs : Outcome (List Char))
  | registry (names : List Points) (xIds : List Int) (axis : List Date) (members : List Nat)
  | refused (f : SeriesFault)
  /-- There is no such slot. -/
  | unknown

namespace Session

def toRegistry (σ : Session) : Registry :=
  { axis := σ.axis, members := σ.members.filterMap (σ.slots[·]?) }

def learn (σ : Session) (s : Series) : Session × Reply :=
  ({ σ with slots := σ.slots ++ [s] }, .slot σ.slots.length)

def setSlot (σ : Session) (i : Nat) (s : Series) : Session := { σ with slots := σ.slots.set i s }

/-- Goes on with the series of a slot. -/
def withSlot (σ : Session) (i : Nat) (k : Series → Session × Reply) : Session × Reply :=
  match σ.slots[i]? with
  | some s => k s
  | none => (σ, .unknown)

/-- Answers with a value. A series that is a member has its slot, any other gets a new one. -/
def answer (σ : Session) : Outcome Value → Session × Reply
  | .ok (.series s .fresh) => σ.learn s
  | .ok (.series _ (.member i)) =>
    match σ.members[i]? with
    | some slot => (σ, .slot slot)
    | none => (σ, .unknown)
  | v => (σ, .value v)

def operand? (σ : Session) : SessionOperand → Option Operand
  | .slot i => (σ.slots[i]?).map fun s => .ok s.asValue
  | .given o => some o

def step (σ : Session) : Step → Session × Reply
  | .create id name measure usedAsX =>
    let i := σ.slots.length
    let s := σ.toRegistry.blankSeries id name measure usedAsX
    ({ σ with slots := σ.slots ++ [s], members := σ.members ++ [i] }, .slot i)
  | .new axis values id name measure usedAsX targets =>
    match Series.make (axis.getD σ.axis) values id name measure usedAsX targets with
    | .ok s => σ.learn s
    | .error f => (σ, .refused f)
  | .add i => σ.withSlot i fun s =>
    if s.dates = σ.axis then ({ σ with members := σ.members ++ [i] }, .slot i)
    else (σ, .refused (.foreignAxis s.name))
  | .clone i => σ.withSlot i fun s => σ.learn s.clone
  | .withValues i values => σ.withSlot i fun s =>
    match s.withValues values with
    | .ok t => σ.learn t
    | .error f => (σ, .refused f)
  | .getValue i day shift => σ.withSlot i fun s => (σ, .amount (s.valueAt day shift))
  | .setValue i day x => σ.withSlot i fun s =>
    let (s, done) := s.setValue day x
    (σ.setSlot i s, .flag done)
  | .addTargets i n => σ.withSlot i fun s => (σ.setSlot i (s.addTargets n), .nothing)
  | .shiftValues i amount threshold => σ.withSlot i fun s =>
    let (s, done) := s.shiftValues amount threshold
    (σ.setSlot i s, .flag done)
  | .fillMissing i x => σ.withSlot i fun s => (σ.setSlot i (s.fillMissing x), .nothing)
  | .accumulate i => σ.withSlot i fun s => (σ.setSlot i s.accumulate, .nothing)
  | .recalculate i => σ.withSlot i fun s => (σ.setSlot i s.recalculate, .nothing)
  | .entries i => σ.withSlot i fun s => (σ, .entries s.entries)
  | .present i => σ.withSlot i fun s => (σ, .amounts s.present)
  | .describe i => σ.withSlot i fun s => (σ, .text s.summary)
  | .sharesAxis i j => σ.withSlot i fun s => σ.withSlot j fun t => (σ, .flag (s.sharesAxis t))
  | .get id =>
    (σ, .place ((σ.toRegistry.get? id).bind fun (i, _) => σ.members[i]?))
  | .default => (σ, .place (σ.toRegistry.defaultIndex?.bind (σ.members[·]?)))
  | .indexOf day => (σ, .index (σ.toRegistry.indexOf day))
  | .registry =>
    (σ, .registry σ.toRegistry.names σ.toRegistry.xIds σ.axis σ.members)
  | .binary operator a b =>
    match σ.operand? a, σ.operand? b with
    | some a, some b => σ.answer (ofFault (applyBinary operator a b))
    | _, _ => (σ, .unknown)
  | .unary operator a =>
    match σ.operand? a with
    | some a => σ.answer (ofFault (applyUnary operator a))
    | none => (σ, .unknown)
  | .summarise i function => σ.withSlot i fun s => σ.answer (function.of σ.context s)
  | .reshape i function args => σ.withSlot i fun s =>
    match args.mapM σ.operand? with
    | some args => σ.answer (ofFault (function.of s args))
    | none => (σ, .unknown)
  | .evaluate text => σ.answer do
    let e ← Expr.read text
    Expr.evaluate σ.toRegistry σ.context e
  | .render text => (σ, .rendered (Template.render σ.toRegistry σ.context text).2)

def run (σ : Session) (steps : List Step) : Session := steps.foldl (fun σ s => (σ.step s).1) σ

end Session

end Daybook
