import AdtCompiler.Host.Basic
import AdtCompiler.Host.Failure

/-!
# Targets

A target receives the text of one generated unit. It is released exactly once: closed, which
publishes the unit, or aborted, which publishes nothing. A factory makes one target for each
unit, by the unit's qualified name.
-/

namespace AdtCompiler

/-- What makes targets, and what can be done with them. An operation on a target gives the
target as it is afterwards, and a failure or nothing if it succeeded. -/
structure TargetFactory (m : Type → Type) where
  /-- The state of a target. -/
  Target : Type
  create : Text → m (Except Failure Target)
  /-- The destination of a target, for the log. -/
  info : Target → Text
  write : Target → Text → m (Option Failure × Target)
  close : Target → m (Option Failure × Target)
  /-- A target may not be able to abort. -/
  abort? : Target → Option (m (Option Failure × Target))

/-- Writes pieces one after another, up to the first one that fails. -/
def writePieces [Monad m] (write : σ → Text → m (Option ε × σ)) (s : σ) :
    List Text → m (Option ε × σ)
  | [] => return (none, s)
  | piece :: rest => do
    match ← write s piece with
    | (some e, s) => return (some e, s)
    | (none, s) => writePieces write s rest

namespace TargetFactory

/-- Releases a target whose unit is not complete. -/
def discard (f : TargetFactory m) (t : f.Target) : m (Option Failure × f.Target) :=
  match f.abort? t with
  | some abort => abort
  | none => f.close t

end TargetFactory

end AdtCompiler
