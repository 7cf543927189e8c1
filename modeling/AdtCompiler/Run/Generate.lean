import AdtCompiler.Cache.Disk
import AdtCompiler.Emit
import AdtCompiler.Run.Inspect
import AdtCompiler.Run.Timer
import AdtCompiler.Target.File

/-!
# Generating

A run compiles a source, or all sources below a directory, in the order of their paths, each of
them completely before the next. The first source with errors stops the run, and nothing is
generated for it. A source whose cache entry is still fresh is skipped.
-/

namespace AdtCompiler

/-- The sources that a path stands for: the file itself, or the files below a directory whose
names end with the extension, in order. -/
def collectSources [Host m] (path extension : Text) : m (Except Failure (List Text)) := do
  let extension := if extension.isEmpty then Options.defaultExtension else extension
  match ← Host.status path with
  | .error e => return .error (.ofFile (.collecting path) e)
  | .ok .regular => return .ok [path]
  | .ok .directory =>
    match ← filesBelow path with
    | .error e => return .error (.ofFile (.walking path) e)
    | .ok files =>
      return .ok ((files.filter fun f => extension.isSuffixOf (Path.base f)).mergeSort Text.le)

/-- What a run has done so far. -/
structure Generation where
  files : FileSet := {}
  bag : Bag
  /-- The files written by this run. -/
  outputs : List Text := []
  /-- The sources whose files were still intact. -/
  skipped : List Text := []
  timer : Timer := {}

/-- What a run needs to know. -/
structure GenerationPlan where
  session : Session
  cache : Option DiskCache
  /-- The absolute path of the destination. -/
  destination : Text
  units : FileUnits

/-- How the work on one source ends. -/
inductive SourceEnd where
  | done
  /-- The source has errors, which are in the bag. -/
  | rejected
  | failed (failure : Failure)

namespace Generation

/-- Begins a phase. -/
def enter [Host m] (g : Generation) (name : Text) : m (Generation × Nat) := do
  let (timer, place) := g.timer.beginPhase name (← Host.clock)
  return ({ g with timer }, place)

/-- Ends a phase. -/
def leave [Host m] (g : Generation) (place : Nat) (note : Text) : m Generation := do
  return { g with timer := g.timer.endPhase place note (← Host.clock) }

/-- Whether the cache says that the files of a source are intact. -/
def isCached [Host m] (plan : GenerationPlan) (path key : Text) : m Bool := do
  match plan.cache with
  | none => return false
  | some cache =>
    match ← cache.get key with
    | .error e =>
      Logger.log ⟨.warning, "ignoring unreadable cache entry",
        [("source", .text path), ("error", .text e.message)]⟩
      return false
    | .ok none => return false
    | .ok (some entry) => entry.isFresh

/-- The files of a source, in order, with their digests if those are wanted. -/
structure Written where
  paths : List Text := []
  digests : List Text := []
deriving Repr, DecidableEq

/-- Looks at the files that were written, up to the first that cannot be read. -/
def survey [Host m] (hashed : Bool) (w : Written) : List Text → m (Option Failure × Written)
  | [] => return (none, w)
  | path :: rest => do
    let w := { w with paths := w.paths ++ [path] }
    if hashed then
      match ← fileDigest path with
      | .error e => return (some (.ofFile (.hashing path) e), w)
      | .ok digest => survey hashed { w with digests := w.digests ++ [digest] } rest
    else survey hashed w rest

/-- A list, or nothing if it is empty. -/
def someUnlessEmpty (items : List α) : Option (List α) := if items.isEmpty then none else some items

/-- What the cache keeps of a source. -/
def entryOf (plan : GenerationPlan) (path : Text) (w : Written) : CacheEntry where
  schema := CacheEntry.currentSchema
  source := path
  backend := plan.session.backend.name
  version := plan.session.options.versionText
  outputs := someUnlessEmpty w.paths
  digests := someUnlessEmpty w.digests

/-- Records the files of a source in the cache. A cache that cannot be written is no failure. -/
def remember [Host m] (plan : GenerationPlan) (path key : Text) (w : Written) : m Unit := do
  match plan.cache with
  | none => return ()
  | some cache =>
    match ← cache.put key (entryOf plan path w) with
    | none => return ()
    | some e =>
      Logger.log ⟨.warning, "cannot update cache",
        [("source", .text path), ("error", .text e.message)]⟩

/-- Emits the document of a source, and records what was written. -/
def emit [Host m] (g : Generation) (plan : GenerationPlan) (path key : Text) (doc : Doc) :
    m (SourceEnd × Generation) := do
  let (g, phase) ← g.enter "emit"
  let ending ← doc.emit plan.session.backend plan.session.options.versionText plan.units.factory
  let g ← g.leave phase (Text.decimal doc.types.length ++ " types")
  match ending with
  | .failed e => return (.failed (e.during (.generatingFrom path)), g)
  | .crashed => return (.failed (.ofCause .impossible), g)
  | .done =>
    let outputs := doc.types.map fun d => plan.units.pathFor (doc.qualifiedName d)
    let (failure, written) ← survey plan.cache.isSome {} outputs
    let g := { g with outputs := g.outputs ++ written.paths }
    match failure with
    | some e => return (.failed e, g)
    | none =>
      Logger.log ⟨.info, "generated",
        [("source", .text path), ("types", .number doc.types.length)]⟩
      remember plan path key written
      return (.done, g)

/-- Reads and checks a loaded source, and emits its document. -/
def compile [Host m] (g : Generation) (plan : GenerationPlan) (path key : Text)
    (file : SourceFile) : m (SourceEnd × Generation) := do
  let (g, phase) ← g.enter "parse"
  match plan.session.parse file g.bag with
  | .error e => return (.failed e, g)
  | .ok (none, bag) => return (.rejected, ← { g with bag }.leave phase path)
  | .ok (some doc, bag) =>
    let g ← { g with bag }.leave phase path
    let (g, phase) ← g.enter "check"
    let (ok, bag) := plan.session.check file doc g.bag
    let g ← { g with bag }.leave phase path
    if ok then g.emit plan path key doc else return (.rejected, g)

/-- Works on one source. -/
def source [Host m] (g : Generation) (plan : GenerationPlan) (path : Text) :
    m (SourceEnd × Generation) := do
  let (g, phase) ← g.enter "load"
  let loaded ← g.files.load path
  let g ← g.leave phase path
  match loaded with
  | .error e => return (.failed (.ofFile (.loading path) e), g)
  | .ok (files, file) =>
    let g := { g with files }
    let key := plan.session.cacheKey file.digest plan.destination
    if ← isCached plan path key then
      Logger.log ⟨.info, "unchanged, skipping", [("source", .text path)]⟩
      return (.done, { g with skipped := g.skipped ++ [path] })
    else g.compile plan path key file

/-- Works on sources one after another, up to the first that is not done. -/
def sources [Host m] (plan : GenerationPlan) (g : Generation) :
    List Text → m (Option Failure × Generation)
  | [] => return (none, g)
  | path :: rest => do
    match ← g.source plan path with
    | (.done, g) => sources plan g rest
    | (.rejected, g) => return (none, g)
    | (.failed e, g) => return (some e, g)

end Generation

/-- The cache of a run, if it uses one. All its entries are dropped first if that is asked. -/
def Options.openCache [Host m] (o : Options) : m (Except Failure (Option DiskCache)) := do
  if !(o.cache || o.clearCache) then return .ok none
  match ← DiskCache.open? o.cacheDir with
  | .error e => return .error e
  | .ok cache =>
    if o.clearCache then
      if let some e ← cache.dropAll then return .error e
      Logger.log ⟨.info, "cleared cache", [("dir", .text cache.dir)]⟩
    return .ok (if o.cache then some cache else none)

/-- Generates everything that a session is asked to. -/
def Session.generate [Host m] (session : Session) (bag : Bag) (source destination : Text) :
    m (Option Failure × Generation) := do
  let g : Generation := { bag }
  let (g, phase) ← g.enter "collect"
  match ← collectSources source session.options.sourceExtension with
  | .error e => return (some e, ← g.leave phase [])
  | .ok paths =>
    let g ← g.leave phase (Text.decimal paths.length ++ " sources")
    match ← session.options.openCache with
    | .error e => return (some e, g)
    | .ok cache =>
      let plan : GenerationPlan :=
        { session, cache, destination := ← absolutePath destination,
          units := ⟨destination, session.backend.extension⟩ }
      Generation.sources plan g paths

/-- Compiles a source, or all sources below a directory, to a destination. It fails at once if
the run cannot start. -/
def Options.generate [Host m] (o : Options) (source destination : Text) :
    m (Except Failure (Option Failure × Generation)) := do
  match Session.start o with
  | .error e => return .error e
  | .ok session =>
    match session.newBag with
    | .error e => return .error e
    | .ok bag => return .ok (← session.generate bag source destination)

end AdtCompiler
