import OpticalLink.Console.Program

/-!
# Entry point

Reads what the command line asks for, lets the program decide, and prints. Serial
lines cannot be set up from here, so that supervision ends at the first device.
-/

namespace OpticalLink.Entry

/-- A failed operation of the system. -/
def faultOf : IO.Error → IoFault
  | .noFileOrDirectory _ _ _ => .notFound
  | .permissionDenied _ _ _ => ⟨.permissionDenied, "Permission denied (os error 13)"⟩
  | .inappropriateType _ code _ => if code = 20 then .notADirectory else .isADirectory
  | error => ⟨.other, toString error⟩

/-- The content of a file. -/
def readFile (path : String) : IO (Except IoFault Bytes) := do
  try
    return .ok (← IO.FS.readBinFile path).data.toList
  catch error => return .error (faultOf error)

/-- All that comes in from outside. -/
partial def readInput (stream : IO.FS.Stream) (collected : Array UInt8) : IO Bytes := do
  let chunk ← stream.read 65536
  if chunk.isEmpty then return collected.toList
  readInput stream (collected ++ chunk.data)

/-- Gathers what a task finds outside. -/
def gather (config : Option String) (task : Option Console.Task) : IO Console.Surroundings := do
  let input ← if task.any Console.Task.readsInput then readInput (← IO.getStdin) #[] else pure []
  let settings ← match task.bind Console.Task.configPath? with
    | some path => readFile path
    | none => pure (.error .notFound)
  return {
    config
    input := .ok input
    contentOf := fun _ => settings
    openDevice := fun _ _ => .error "No such file or directory"
    ticks := [] }

end OpticalLink.Entry

open OpticalLink in
/-- Runs the program and ends with its code. -/
def main (arguments : List String) : IO UInt32 := do
  let config ← IO.getEnv "KORUZA_CONFIG"
  let task := (Console.Invocation.read config arguments).toOption.map Console.Invocation.task
  let outcome := Console.run (← Entry.gather config task) arguments
  let output ← IO.getStdout
  output.write ⟨outcome.output.toArray⟩
  output.flush
  if let some message := outcome.message then IO.eprintln ("error: " ++ message)
  return UInt32.ofNat outcome.code
