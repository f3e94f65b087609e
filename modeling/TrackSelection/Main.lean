import TrackSelection.Command.Run

/-!
# The command line program

Reads the files that the arguments name, and prints what the command says.
-/

namespace TrackSelection.Command

def readPath (path : String) : IO (String × File) := do
  try
    return (path, .bytes (← IO.FS.readBinFile path))
  catch
    | .noFileOrDirectory .. => return (path, .missing)
    | _ => return (path, .directory)

end TrackSelection.Command

open TrackSelection.Command

/-- Run the command that the arguments ask for. -/
def main (arguments : List String) : IO UInt32 := do
  match parse? arguments with
  | none =>
    IO.eprintln "Usage: trackpilot [OPTIONS] <COMMAND>"
    return UInt32.ofNat usageCode
  | some invocation =>
    let found ← invocation.paths.mapM readPath
    let printed := run (fun path => (found.lookup path).getD .missing) invocation
    IO.print printed.text
    if let some failure := printed.failure then
      IO.eprintln s!"Error: {failure.message}"
    return UInt32.ofNat printed.code
