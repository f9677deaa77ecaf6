import EntityQuery.Compile

/-!
# The command

Reads the arguments, the variables and the model file, and writes what `Compile` makes of them.
-/

namespace EntityQuery.Compile

/-- The bytes of a file, if it can be read. -/
def readBytes (path : String) : IO (Option (List UInt8)) := do
  try
    return some (← IO.FS.readBinFile path).toList
  catch _ => return none

/-- The variables of the environment that give settings. -/
def readVariables : IO (List (String × String)) := do
  let mut found := []
  for s in Setting.all do
    if let some value := (← IO.getEnv s.variableName) then
      found := (s.variableName, value) :: found
  return found

/-- Runs a command line. -/
def runArguments (args : List String) : IO Outcome := do
  let environment ← readVariables
  match Invocation.ofArguments (environment.lookup ·) args with
  | .error e => return refuse e
  | .ok i =>
    let bytes ← match i.config.modelPath with
      | some path => readBytes path
      | none => pure none
    return run (fun _ => bytes) i

end EntityQuery.Compile

open EntityQuery.Compile in
/-- The command: its statements on standard output, what is wrong on standard error. -/
def main (args : List String) : IO UInt32 := do
  let outcome ← runArguments args
  IO.print outcome.output
  if !outcome.complaint.isEmpty then IO.eprintln outcome.complaint
  return outcome.status.toUInt32
