import Daybook.Command.Run

/-!
The command line: reads the environment and the series file and does what the command says.
-/

namespace Daybook.Command

/-- The names that the settings are read from. -/
def settingNames : List String := ["TRACKER_DATE_FORMAT", "DATE_FORMAT", "TRACKER_START_DATE",
  "TRACKER_END_DATE", "TRACKER_MAX_TEMPLATE_CHARS", "LOG_LEVEL"]

def usage : String :=
  "usage: daybook [-h] [--value] [--date-format DATE_FORMAT] series_file template"

end Daybook.Command

open Daybook Command in
def main (args : List String) : IO UInt32 := do
  match Arguments.read args with
  | .error .help =>
    IO.println usage
    return 0
  | .error _ =>
    IO.eprintln usage
    return 2
  | .ok parsed =>
    let known ← settingNames.mapM fun n => do return (n, ← IO.getEnv n)
    let env : Environment := fun n => (known.find? (·.1 == n)).bind (·.2)
    let file ← try some <$> IO.FS.readFile parsed.file catch _ => pure none
    match run env parsed (file.map String.toList) with
    | .ok r =>
      IO.print (String.ofList r.output)
      IO.eprint (String.ofList r.errors)
      return r.code.toUInt32
    | .error b =>
      IO.eprintln b.message
      return 1
