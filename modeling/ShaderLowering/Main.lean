import ShaderLowering.CommandLine

/-!
# The program

Reads the file that the arguments name, and carries out what the run comes to.
-/

namespace ShaderLowering

/-- Writes what a run comes to and gives its exit code. -/
def Outcome.carryOut (outcome : Outcome) : IO UInt32 := do
  IO.print outcome.output
  IO.eprint outcome.errors
  return UInt32.ofNat outcome.exitCode

/-- The binary in a file. One that cannot be read is as good as empty. -/
def readBinary (path : String) : IO (List UInt8) := do
  try
    return (← IO.FS.readBinFile path).toList
  catch _ =>
    return []

end ShaderLowering

open ShaderLowering in
def main (arguments : List String) : IO UInt32 := do
  match Invocation.ofArguments? arguments with
  | none => Invocation.refusal.carryOut
  | some invocation => (invocation.run (← readBinary invocation.path)).carryOut
