import BoundedCrawl.CommandLine.Report
set_option autoImplicit false

/-!
# Running the program

Reads the file of settings if there is one, and prints the report.  The program has no network
of its own to offer: every request finds its server unreachable.
-/

namespace BoundedCrawl.CommandLine

/-- What a file holds, or why it cannot be read. -/
def contentOf (path : String) : IO (Except FileFault (List UInt8)) := do
  try
    return .ok (← IO.FS.readBinFile path).toList
  catch e =>
    match e with
    | .noFileOrDirectory .. => return .error .missing
    | .inappropriateType .. => return .error .isDirectory
    | e => return .error (.other e.toString)

/-- What the file of settings holds, if one is asked for. -/
def settingsContent (arguments : List String) : IO (Except FileFault (List UInt8)) :=
  match Options.read arguments with
  | .ok { config := some path, .. } => contentOf path
  | _ => return .error .missing

end BoundedCrawl.CommandLine

open BoundedCrawl BoundedCrawl.CommandLine in
def main (arguments : List String) : IO UInt32 := do
  let content ← settingsContent arguments
  let report := run (fun _ => content) Http.Network.unreachable arguments
  let out ← IO.getStdout
  let err ← IO.getStderr
  report.output.forM out.putStrLn
  report.complaint.forM err.putStrLn
  return report.exitCode.toUInt32
