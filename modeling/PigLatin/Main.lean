import PigLatin.CommandLine.Outcome

/-!
# The program

Reads standard input where it is needed, and writes what running the program leaves behind.
-/

namespace PigLatin

/-- Everything on standard input; nothing at a terminal. -/
def readStdin : IO (Option ByteArray) := do
  let stdin ← IO.getStdin
  if ← stdin.isTty then
    return none
  let mut bytes := ByteArray.empty
  let mut block ← stdin.read 65536
  while !block.isEmpty do
    bytes := bytes ++ block
    block ← stdin.read 65536
  return some bytes

end PigLatin

open PigLatin in
/-- Runs the program. -/
def main (arguments : List String) : IO UInt32 := do
  let needed := match CommandLine.Command.parse arguments with
    | .ok command => command.readsInput
    | .error _ => false
  let stdin ← if needed then readStdin else pure none
  let outcome := CommandLine.run .standard arguments stdin
  IO.print outcome.output
  IO.eprint outcome.errors
  return outcome.exitCode.toUInt32
