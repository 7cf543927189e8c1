import AdtCompiler.Target.Basic

/-!
# Emitting a document

Every data type of a document becomes one unit, written to a target of its own, in the order of
the document. A unit that fails does not keep the others from being written, and the first
failure is the one that is reported. A target that cannot be created ends the run at once.
-/

namespace AdtCompiler

/-- How the emission of a document or of a unit ends. -/
inductive EmitEnd where
  | done
  | failed (failure : Failure)
  /-- The renderer did not come back. -/
  | crashed
deriving Repr, DecidableEq

namespace Emit

/-- The entry that tells that a document is emitted. -/
def startEntry (backend : Backend) (doc : Doc) : LogEntry :=
  ⟨.debug, "emitting document", [("source", .text doc.source), ("backend", .text backend.name),
    ("types", .number doc.types.length)]⟩

/-- The entry that tells that a unit is emitted. -/
def unitEntry (info : Text) : LogEntry := ⟨.info, "generating", [("target", .text info)]⟩

/-- Renders a unit into its target, and gives the target as it is then. -/
def writeUnit [Monad m] (f : TargetFactory m) (target : f.Target) (name : Text)
    (rendering : Rendering) : m (EmitEnd × f.Target) := do
  match ← writePieces f.write target rendering.pieces with
  | (some failure, target) => return (.failed (failure.during (.emitting name)), target)
  | (none, target) =>
    match rendering.ending with
    | .complete => return (.done, target)
    | .failed error =>
      return (.failed ((Failure.ofCause (.render error)).during (.emitting name)), target)
    | .crashed => return (.crashed, target)

/-- Releases the target of a unit: it is closed if the unit is complete, and discarded otherwise.
Gives how the emission of the unit ends. -/
def releaseUnit [Monad m] (f : TargetFactory m) (target : f.Target) (ending : EmitEnd) :
    m EmitEnd := do
  if ending = .done then
    match ← f.close target with
    | (some failure, _) => return .failed (failure.during (.closing (f.info target)))
    | (none, _) => return .done
  else
    let _ ← f.discard target
    return ending

/-- Renders a unit into its target and releases the target. -/
def emitUnit [Monad m] [Logger m] (f : TargetFactory m) (target : f.Target) (name : Text)
    (rendering : Rendering) : m EmitEnd := do
  Logger.log (unitEntry (f.info target))
  let (ending, target) ← writeUnit f target name rendering
  releaseUnit f target ending

/-- The first failure stays the one that is reported. -/
def EmitEnd.orElse : EmitEnd → EmitEnd → EmitEnd
  | .done, later => later
  | first, _ => first

/-- Emits the units of data types; `first` is the outcome so far. -/
def emitUnits [Monad m] [Logger m] (backend : Backend) (factory : TargetFactory m) (doc : Doc)
    (header : Text) (first : EmitEnd) : List DataType → m EmitEnd
  | [] => return first
  | d :: rest => do
    let name := doc.qualifiedName d
    match ← factory.create name with
    | .error failure =>
      return EmitEnd.orElse first (.failed (failure.during (.creatingTargetFor name)))
    | .ok target =>
      let ending ← emitUnit factory target name (backend.render doc d header)
      if ending = .crashed then return .crashed
      emitUnits backend factory doc header (EmitEnd.orElse first ending) rest

end Emit

/-- Emits a document. A document that lacks types somewhere cannot be printed, and so has no
provenance. -/
def Doc.emit [Monad m] [Logger m] (doc : Doc) (backend : Backend) (version : Text)
    (factory : TargetFactory m) : m EmitEnd := do
  Logger.log (Emit.startEntry backend doc)
  match doc.provenance? version with
  | none => return .crashed
  | some provenance =>
    Emit.emitUnits backend factory doc (backend.header doc version provenance) .done doc.types

end AdtCompiler
