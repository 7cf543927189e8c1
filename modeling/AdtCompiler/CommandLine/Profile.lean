import AdtCompiler.CommandLine.Flag
import AdtCompiler.Host.Basic
import AdtCompiler.Host.Failure

/-!
# Profiles

Flags can name files for profiles of a run. There is nothing to measure here, so that the files
stay empty; they are created where and when a profile would be, and a file that cannot be
created fails the run.
-/

namespace AdtCompiler

/-- The files for the profiles of a run; an empty path asks for none. -/
structure ProfileFiles where
  processor : Text := []
  memory : Text := []
  trace : Text := []
deriving Repr, DecidableEq

namespace ProfileFiles

/-- The files that the flags name. -/
def ofArguments (a : Arguments) : ProfileFiles :=
  { processor := (a.text? "cpuprofile").getD [], memory := (a.text? "memprofile").getD [],
    trace := (a.text? "trace").getD [] }

/-- Creates the file of a profile if there is to be one. -/
def create [Host m] (what path : Text) : m (Option Failure) := do
  if path.isEmpty then return none
  match ← Host.save path [] with
  | .ok () => return none
  | .error e => return some (.ofFile (.profiling what) e)

/-- Creates the files of the profiles that start with the run. -/
def start [Host m] (f : ProfileFiles) : m (Option Failure) := do
  match ← create "CPU profile" f.processor with
  | some failure => return some failure
  | none => create "trace" f.trace

/-- Creates the file of the profile that is taken at the end of the run. -/
def finish [Host m] (f : ProfileFiles) : m (Option Failure) := create "heap profile" f.memory

end ProfileFiles

end AdtCompiler
