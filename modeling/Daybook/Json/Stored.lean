import Daybook.Json.Write

/-!
A value kept in a file: where the file is, below the directory that paths start from, and the text
in it.
-/

namespace Daybook.Json

/-- The parts of a path; empty parts and those for the same directory say nothing. -/
def pathParts (path : String) : List (List Char) :=
  (path.toList.splitOn '/').filter fun part => part != [] && part != ['.']

/-- Where a path leads, if it stays below its start. Two points lead one directory up. -/
def placeOf (parts : List (List Char)) : Option (List (List Char)) :=
  parts.foldl (fun place part => place.bind fun dirs =>
    if part = ['.', '.'] then if dirs = [] then none else some dirs.dropLast
    else some (dirs ++ [part])) (some [])

def joinParts (parts : List (List Char)) : String := String.ofList (['/'].intercalate parts)

structure Stored where
  /-- The files that storing has made below the start. -/
  files : List String
  text : List Char

/-- Why a value was not stored: its file has no name. -/
inductive StoreFault
  | nameless
  deriving DecidableEq, Repr

def StoreFault.message : StoreFault → String
  | nameless => "PosixPath('.') has an empty name"

/-- Stores a value in the file with the given path. -/
def store (path : String) (j : Json) : Except StoreFault Stored :=
  match pathParts path with
  | [] => .error .nameless
  | parts => .ok { files := ((placeOf parts).map joinParts).toList, text := j.canonical }

end Daybook.Json
