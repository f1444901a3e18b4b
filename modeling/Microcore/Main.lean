/-
  Microcore/Main.lean
  ===================
  **The program.**  It looks at the source file, runs the command line as a function, and then
  prints, writes the files and ends as the outcome says.
-/
import Microcore.CommandLine.Run

open Microcore

namespace Microcore.Main

def look (path : CommandLine.Path) : IO CommandLine.Found := do
  let file := path.toString
  try
    let bytes ← IO.FS.readBinFile file
    return .file bytes
  catch _ =>
    try
      let _ ← IO.FS.withFile file .read fun _ => pure ()
      return .directory
    catch _ => return .vacant

end Microcore.Main

def main (args : List String) : IO UInt32 := do
  let setting := (← IO.getEnv "UCPU_DEBUG").getD ""
  let found : CommandLine.Found ← match CommandLine.parse args with
    | .ok o => Main.look o.source
    | .error _ => pure .vacant
  let find (path : CommandLine.Path) : CommandLine.Found :=
    match CommandLine.parse args with
    | .ok o => if path = o.source then found else .vacant
    | .error _ => .vacant
  match CommandLine.run find (Log.Filter.ofSetting setting) args with
  | .error failure =>
    IO.eprint (CommandLine.message failure.message)
    return 1
  | .ok outcome =>
    for (path, text) in outcome.files do
      IO.FS.writeFile path.toString text
    IO.print outcome.stdout
    IO.eprint outcome.stderr
    return outcome.status.toUInt32
