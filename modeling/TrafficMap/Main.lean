import TrafficMap.CommandLine.Run

/-!
# The program

Reads the environment and the file of settings, and prints how the command ends. No connection to
the appliance can be made from here.
-/

open TrafficMap TrafficMap.CommandLine

/-- What is found at a path. -/
def fileState (path : String) : IO FileState := do
  try
    return .text (← IO.FS.readFile path)
  catch
    | .noFileOrDirectory .. => return .missing
    | .inappropriateType .. => return .directory
    | _ => return .unreadable

/-- The environment variables of the program. -/
def environmentVariables : IO (List (String × String)) := do
  match ← fileState "/proc/self/environ" with
  | .text content =>
    let entries := Text.runs (· = '\x00') content.toList
    return entries.map fun cs =>
      (String.ofList (cs.takeWhile (· ≠ '=')), String.ofList ((cs.dropWhile (· ≠ '=')).drop 1))
  | _ => return []

def main (arguments : List String) : IO UInt32 := do
  let environment ← environmentVariables
  let state ← match Flags.read arguments with
    | .ok flags => fileState (flags.settingsPath environment)
    | .error _ => pure .missing
  let plan := run { files := fun _ => state, environment } arguments
  let ending := plan.ending (fun (_ : Unit) _ => ((), .refused)) { server := () }
  IO.print ending.printed
  if let some report := ending.report then IO.eprintln ("Error: " ++ report)
  if ending.status = 2 then IO.eprintln "Usage: flowscope [OPTIONS]"
  return ending.status
