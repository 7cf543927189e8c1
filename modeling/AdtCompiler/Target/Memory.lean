import AdtCompiler.Target.Basic

/-!
# Targets in memory

A factory that keeps every published unit in memory, by its name. Publishing a name again
replaces its text.
-/

namespace AdtCompiler

/-- A target in memory. -/
structure MemoryTarget where
  name : Text
  buffer : Text := []
  /-- Whether the target was released. -/
  closed : Bool := false
deriving Repr, DecidableEq

/-- Published units, by name. -/
structure MemoryUnits where
  label : Text
  published : List (Text × Text) := []
deriving Repr

namespace MemoryUnits

/-- The name has the text. -/
def publish (s : MemoryUnits) (name text : Text) : MemoryUnits :=
  { s with published := s.published.filter (·.1 != name) ++ [(name, text)] }

/-- The published units, sorted by name. -/
def results (s : MemoryUnits) : List (Text × Text) :=
  s.published.mergeSort fun a b => Text.le a.1 b.1

instance : Logger (StateM MemoryUnits) where
  log _ := return ()

end MemoryUnits

namespace MemoryTarget

/-- The destination of a target, for the log. -/
def info (label : Text) (t : MemoryTarget) : Text := "String: " ++ label ++ "/" ++ t.name

/-- Adds to the text of a target, also of one that was released. -/
def write (t : MemoryTarget) (text : Text) : MemoryTarget := { t with buffer := t.buffer ++ text }

/-- Publishes the text of a target that was not released yet. -/
def close (t : MemoryTarget) (s : MemoryUnits) : MemoryUnits × MemoryTarget :=
  if t.closed then (s, t) else (s.publish t.name t.buffer, { t with closed := true })

/-- Releases a target without publishing its text. -/
def abort (t : MemoryTarget) : MemoryTarget := { t with closed := true }

end MemoryTarget

/-- The factory that keeps units in memory. -/
def MemoryUnits.factory (label : Text) : TargetFactory (StateM MemoryUnits) where
  Target := MemoryTarget
  create name := return .ok { name }
  info := MemoryTarget.info label
  write t text := return (none, t.write text)
  close t := do
    let (s, t) := t.close (← get)
    set s
    return (none, t)
  abort? t := some (return (none, t.abort))

end AdtCompiler
