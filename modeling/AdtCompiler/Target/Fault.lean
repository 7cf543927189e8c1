import AdtCompiler.Emit

/-!
# Faulty targets

A factory whose targets fail where they are told to, and a back end that fails or does not come
back for units it is told about. What happens to the targets is recorded, so that it can be
seen how an emission deals with failures.
-/

namespace AdtCompiler

/-- Which units fail, and how. -/
structure Faults where
  create : List Text := []
  write : List Text := []
  close : List Text := []
  abort : List Text := []
  render : List Text := []
  crash : List Text := []
  /-- The targets cannot abort. -/
  noAbort : Bool := false
deriving Repr

/-- What happened to a target. -/
inductive TargetEvent where
  | created (name : Text)
  | closed (name : Text) (size : Nat)
  | aborted (name : Text)
deriving Repr, DecidableEq

/-- A target that may fail: its name, and how many bytes it has received. -/
structure FaultyTarget where
  name : Text
  size : Nat := 0
deriving Repr, DecidableEq

/-- What happened to the targets, in order. -/
structure TargetEvents where
  events : List TargetEvent := []
deriving Repr, DecidableEq

namespace TargetEvents

/-- Adds an event. -/
def add (r : TargetEvents) (e : TargetEvent) : TargetEvents := ⟨r.events ++ [e]⟩

instance : Logger (StateM TargetEvents) where
  log _ := return ()

end TargetEvents

namespace Faults

/-- A failure if the name is listed. -/
def when (listed : List Text) (name message : Text) : Option Failure :=
  if listed.contains name then some (.say message []) else none

/-- The factory that fails as told. -/
def factory (f : Faults) : TargetFactory (StateM TargetEvents) where
  Target := FaultyTarget
  create name := do
    match when f.create name ("no room for " ++ name) with
    | some failure => return .error failure
    | none =>
      modify (·.add (.created name))
      return .ok { name }
  info t := "Faulty: " ++ t.name
  write t text :=
    match when f.write t.name ("disk full at " ++ t.name) with
    | some failure => return (some failure, t)
    | none => return (none, { t with size := t.size + text.length })
  close t := do
    modify (·.add (.closed t.name t.size))
    return (when f.close t.name ("cannot close " ++ t.name), t)
  abort? t :=
    if f.noAbort then none
    else some do
      modify (·.add (.aborted t.name))
      return (when f.abort t.name ("cannot abort " ++ t.name), t)

/-- The back end that fails as told, before it writes anything. -/
def backend (f : Faults) (b : Backend) : Backend :=
  { b with
    render := fun doc d header =>
      let name := doc.qualifiedName d
      if f.crash.contains name then ⟨[], .crashed⟩
      else if f.render.contains name then ⟨[], .failed (.refused name)⟩
      else b.render doc d header }

/-- Emits a document with faults, and tells how it ended and what happened to the targets. -/
def emit (f : Faults) (doc : Doc) (backend : Backend) (version : Text) :
    EmitEnd × List TargetEvent :=
  let (ending, record) := (doc.emit (f.backend backend) version f.factory).run {}
  (ending, record.events)

end Faults

end AdtCompiler
