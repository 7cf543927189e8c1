import AdtCompiler.CommandLine.Run
import AdtCompiler.Host.System

/-!
# The command line

Runs the command that the arguments of the process name.
-/

namespace AdtCompiler

/-- Runs a command, and prints why it failed if it did. -/
def SystemM.runCommand (arguments : List Text) : SystemM CommandEnd := do
  let ending ← Command.run arguments
  Host.printError ending.message
  return ending

end AdtCompiler

open AdtCompiler

/-- The entry of the program. -/
def main (arguments : List String) : IO UInt32 := do
  let (ending, _) ← (SystemM.runCommand (arguments.map Text.ofString)).run {}
  return ending.code.toUInt32
