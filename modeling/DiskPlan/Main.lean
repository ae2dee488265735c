import DiskPlan.CommandLine.Command

/-!
# The program

Reads the arguments, the seed in the environment and the file that the command names, and prints
what the command gives.
-/
namespace DiskPlan.CommandLine

/-- The content of a file, if it can be read. -/
def readFile? (file : String) : IO (Option ByteArray) := do
  try
    return some (← IO.FS.readBinFile file)
  catch _ =>
    return none

/-- A stream under a seed that is drawn from the system. -/
def systemStream : IO ByteStream := do
  let bytes ← IO.getRandomBytes 8
  return .seeded (bytes.toList.foldl (fun n b => n * 256 + b.toUInt64) 0)

/-- The content of the file that the arguments name, if they name one that can be read. -/
def namedContent? (args : List String) (environment : Option String) : IO (Option ByteArray) :=
  match Command.read args environment with
  | .ok command =>
    match command.file? with
    | some file => readFile? file
    | none => pure none
  | .error _ => pure none

end DiskPlan.CommandLine

open DiskPlan.CommandLine in
/-- Runs the program and returns its exit code. -/
def main (args : List String) : IO UInt32 := do
  let environment ← IO.getEnv "DISKLAYOUT_SEED"
  let content ← namedContent? args environment
  let result := outcome args environment (fun _ => content) (← systemStream)
  IO.print result.stdout
  if let some message := result.message then IO.eprintln ("Error: " ++ message)
  if result.exitCode = 2 then IO.eprint usage
  return UInt32.ofNat result.exitCode
