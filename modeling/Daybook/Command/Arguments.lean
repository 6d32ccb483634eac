import Daybook.Text.Words

/-!
The arguments of the command: a series file, a template, a switch for single values and a date
format. Options may stand anywhere before a double dash and may be cut short as long as they are
clear; a negative number and a text with a blank in it are no options.
-/

namespace Daybook.Command

open Text

structure Arguments where
  file : String
  /-- Nothing, if a second double dash stood in the place of the template. -/
  template : Option String
  value : Bool := false
  dateFormat : Option String := none
  deriving DecidableEq, Repr

/-- How reading the arguments ends without a command. -/
inductive Exit
  /-- The arguments fit no use of the command. -/
  | usage
  /-- Help was asked for. -/
  | help
  deriving DecidableEq, Repr

inductive Switch
  | help
  | value
  | dateFormat
  deriving DecidableEq, Repr

/-- The spellings of the switches. -/
def spellings : List (List Char × Switch) := [
  ("-h".toList, .help),
  ("--help".toList, .help),
  ("--value".toList, .value),
  ("--date-format".toList, .dateFormat)]

/-- What an argument is taken for. -/
inductive Word
  /-- A switch and what an equals sign joins to it. -/
  | switch (s : Switch) (joined : Option (List Char))
  /-- A switch of one letter and what is joined to it, with an equals sign or without. -/
  | letters (s : Switch) (joined : List Char)
  /-- Something that looks like a switch and is none. -/
  | unknown
  | doubleDash
  | plain (text : List Char)
  deriving DecidableEq, Repr

/-- A text split at its first equals sign. -/
def splitEquals (cs : List Char) : List Char × Option (List Char) :=
  match cs.dropWhile (· != '=') with
  | [] => (cs, none)
  | _ :: rest => (cs.takeWhile (· != '='), some rest)

/-- Whether a text is a minus sign with a number that has at most a point in it. -/
def isNegativeNumber : List Char → Bool
  | '-' :: cs =>
    let cs := if cs.getLast? = some '\n' then cs.dropLast else cs
    match cs.dropWhile isDecimal with
    | [] => !cs.isEmpty
    | '.' :: ds => !ds.isEmpty && ds.all isDecimal
    | _ => false
  | _ => false

/-- The switches that a text may be short for. After a single dash the first letter may be a
switch that the rest is joined to. -/
def readings (cs : List Char) : List Word :=
  match cs with
  | '-' :: '-' :: _ =>
    let (start, joined) := splitEquals cs
    spellings.filterMap fun (name, s) =>
      if (after? start name).isSome then some (.switch s joined) else none
  | _ =>
    spellings.filterMap fun (name, s) =>
      if name = cs.take 2 then some (.letters s (cs.drop 2))
      else if (after? cs name).isSome then some (.switch s none)
      else none

/-- What an argument before a double dash is taken for; one that is short for several switches
is an error. -/
def classify (cs : List Char) : Except Exit Word :=
  match cs with
  | '-' :: _ :: _ =>
    let (start, joined) := splitEquals cs
    match spellings.find? (·.1 == cs), spellings.find? (·.1 == start), joined with
    | some (_, s), _, _ => .ok (.switch s none)
    | none, some (_, s), some j =>
      .ok (if start.length = 2 then .letters s j else .switch s (some j))
    | _, _, _ =>
      match readings cs with
      | [w] => .ok w
      | _ :: _ :: _ => .error .usage
      | [] =>
        if isNegativeNumber cs || ' ' ∈ cs then .ok (.plain cs) else .ok .unknown
  | _ => .ok (.plain cs)

/-- What all arguments are taken for. After a double dash all of them are plain. -/
def classifyAll : List (List Char) → Except Exit (List Word)
  | [] => .ok []
  | cs :: rest =>
    if cs = ['-', '-'] then .ok (.doubleDash :: rest.map .plain)
    else do
      let w ← classify cs
      let ws ← classifyAll rest
      pure (w :: ws)

/-- What has been read so far. -/
structure Progress where
  /-- What the places of the file and the template got. -/
  places : List (Option (List Char)) := []
  /-- There was something that fits nowhere. -/
  extra : Bool := false
  value : Bool := false
  dateFormat : Option String := none

def Progress.fill (p : Progress) (got : Option (List Char)) : Progress :=
  if p.places.length < 2 then { p with places := p.places ++ [got] } else { p with extra := true }

/-- Reads the words in order. Only the same letter may be joined to a letter. A double dash goes
with the plain word before or behind it; one that fills a place on its own leaves nothing there,
and one that is joined to a switch is as good as nothing. -/
def collect : List Word → Progress → Except Exit Progress
  | [], p => .ok p
  | .letters s cs :: _, _ =>
    .error (if s = .help ∧ cs ≠ [] ∧ (cs.all (· == 'h')) then .help else .usage)
  | .switch .help joined :: _, _ => .error (if joined.isSome then .usage else .help)
  | .switch .value joined :: ws, p =>
    if joined.isSome then .error .usage else collect ws { p with value := true }
  | .switch .dateFormat (some j) :: ws, p =>
    collect ws { p with dateFormat := if j = ['-', '-'] then none else some (String.ofList j) }
  | .switch .dateFormat none :: .plain cs :: ws, p =>
    collect ws { p with dateFormat := some (String.ofList cs) }
  | .switch .dateFormat none :: _, _ => .error .usage
  | .unknown :: ws, p => collect ws { p with extra := true }
  | .plain cs :: .doubleDash :: ws, p => collect ws (p.fill (some cs))
  | .doubleDash :: .plain cs :: ws, p => collect ws (p.fill (some cs))
  | .doubleDash :: ws, p => collect ws { p with extra := true }
  | .plain cs :: ws, p => collect ws (p.fill (if cs = ['-', '-'] then none else some cs))

/-- Reads the arguments of the command. -/
def Arguments.read (args : List String) : Except Exit Arguments := do
  let ws ← classifyAll (args.map String.toList)
  let p ← collect ws {}
  match p.places, p.extra with
  | [some file, template], false =>
    pure {
      file := String.ofList file, template := template.map String.ofList, value := p.value
      dateFormat := p.dateFormat }
  | _, _ => throw .usage

end Daybook.Command
