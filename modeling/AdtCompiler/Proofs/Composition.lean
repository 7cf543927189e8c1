import AdtCompiler.Run.Generate

/-!
# Properties that go through composition

Much of what is proved of a run holds of its smallest steps already: that they only look, that they
change no file, that the log has no influence on them. Such a property goes through composition. A
result has it, and one computation behind another has it if both have.

The programs of the compiler are followed here once, for every host and every such property: a
program has the property if the operations of the host that it uses have it. What is proved of a
property elsewhere is then only what is special about it, its operations.

## Contents

- `Compositional`: properties that go through composition
- `Compositional.generate`: a run has such a property if its parts have it
- `Compositional.WritesUnits.emit`: the emission of documents, for properties of the operations
  with which units are written
- `Compositional.HostWide.run`: whole runs, for properties of all operations
-/

namespace AdtCompiler

variable {m : Type → Type} [Host m]

/-- A property of computations that results have, and that one computation behind another has if
both have it. -/
structure Compositional (P : (α : Type) → m α → Prop) : Prop where
  pure {α : Type} (a : α) : P α (Pure.pure a)
  bind {α β : Type} {x : m α} {g : α → m β} (hx : P α x) (hg : ∀ a, P β (g a)) : P β (x >>= g)

namespace Compositional

section Programs

variable {P : (α : Type) → m α → Prop} (hP : Compositional P)

include hP

theorem foldlM {α β : Type} {f : β → α → m β} (hf : ∀ b a, P _ (f b a)) (l : List α) (b : β) :
    P _ (l.foldlM f b) := by
  induction l generalizing b with
  | nil => exact hP.pure b
  | cons a l ih => exact hP.bind (hf b a) fun b => ih b

/-! ## Directories and sources -/

section Directories

variable (hstatus : ∀ path, P _ (Host.status path))

include hstatus

section Making

variable (hmakeDir : ∀ path, P _ (Host.makeDir path))

include hmakeDir

theorem makeDirBelow (path : Text) : P _ (AdtCompiler.makeDirBelow path) := by
  refine hP.bind (hmakeDir path) fun made => ?_
  cases made with
  | ok _ => exact hP.pure _
  | error e =>
    refine hP.bind (hstatus path) fun found => ?_
    rcases found with _ | _ | _ <;> exact hP.pure _

theorem makeDirs (path : Text) : P _ (AdtCompiler.makeDirs path) := by
  unfold AdtCompiler.makeDirs
  generalize path.length + 1 = fuel
  induction fuel generalizing path with
  | zero => exact hP.pure _
  | succ fuel ih =>
    refine hP.bind (hstatus path) fun found => ?_
    rcases found with e | _ | _
    · -- nothing is there yet: the directory is made once the one above it is there
      dsimp only
      split
      · exact hP.makeDirBelow hstatus hmakeDir path
      · refine hP.bind (ih _) fun above => ?_
        cases above with
        | error e => exact hP.pure _
        | ok _ => exact hP.makeDirBelow hstatus hmakeDir path
    · exact hP.pure _
    · exact hP.pure _

end Making

variable (hentries : ∀ dir, P _ (Host.entries dir))

include hentries

omit hstatus in
theorem filesWithin (fuel : Nat) (dir : Text) : P _ (AdtCompiler.filesWithin fuel dir) := by
  induction fuel generalizing dir with
  | zero => exact hP.pure _
  | succ fuel ih =>
    refine hP.bind (hentries dir) fun names => ?_
    cases names with
    | error e => exact hP.pure _
    | ok names =>
      refine hP.foldlM (fun found (name, kind) => ?_) names _
      rcases found with e | found
      · exact hP.pure _
      · cases kind with
        | regular => exact hP.pure _
        | directory =>
          refine hP.bind (ih _) fun more => ?_
          cases more <;> exact hP.pure _

theorem collectSources (path extension : Text) :
    P _ (AdtCompiler.collectSources path extension) := by
  refine hP.bind (hstatus path) fun found => ?_
  rcases found with e | _ | _
  · exact hP.pure _
  · refine hP.bind (hP.filesWithin hentries _ path) fun files => ?_
    cases files <;> exact hP.pure _
  · exact hP.pure _

end Directories

theorem absolutePath (hdir : P _ Host.workingDir) (path : Text) :
    P _ (AdtCompiler.absolutePath path) := by
  unfold AdtCompiler.absolutePath
  split
  · exact hP.pure _
  · exact hP.bind hdir fun _ => hP.pure _

/-! ## The cache -/

section Entries

variable (hload : ∀ path, P _ (Host.load path))

include hload

theorem fileDigest (path : Text) : P _ (AdtCompiler.fileDigest path) := by
  refine hP.bind (hload path) fun found => ?_
  cases found <;> exact hP.pure _

theorem isFresh (e : CacheEntry) : P _ e.isFresh := by
  unfold CacheEntry.isFresh
  split
  · exact hP.pure _
  · -- the files are looked at one after another, up to the first that is not intact
    generalize e.outputList.zip e.digestList = files
    induction files with
    | nil => exact hP.pure _
    | cons x rest ih =>
      refine hP.bind (hP.fileDigest hload x.1) fun found => ?_
      cases found with
      | error e => exact hP.pure _
      | ok digest =>
        dsimp only
        split
        · exact ih
        · exact hP.pure _

theorem get (c : DiskCache) (key : Text) : P _ (c.get key) := by
  refine hP.bind (hload _) fun found => ?_
  cases found with
  | error e =>
    dsimp only
    split
    · exact hP.pure _
    · split <;> exact hP.pure _
  | ok bytes =>
    dsimp only
    split <;> exact hP.pure _

theorem isCached (hlog : ∀ entry, P _ (Logger.log entry)) (plan : GenerationPlan)
    (path key : Text) : P _ (Generation.isCached plan path key) := by
  unfold Generation.isCached
  split
  · exact hP.pure _
  · refine hP.bind (hP.get hload _ key) fun found => ?_
    rcases found with e | _ | entry
    · exact hP.bind (hlog _) fun _ => hP.pure _
    · exact hP.pure _
    · exact hP.isFresh hload entry

end Entries

section Opening

variable (henvironment : ∀ name, P _ (Host.environment name))

include henvironment

theorem defaultDir : P _ DiskCache.defaultDir := by
  refine hP.bind (henvironment _) fun caches => ?_
  split
  · exact hP.pure _
  · refine hP.bind (henvironment _) fun home => ?_
    split <;> exact hP.pure _

theorem open? (hmakeDirs : ∀ path, P _ (AdtCompiler.makeDirs path)) (dir : Text) :
    P _ (DiskCache.open? dir) := by
  have hopenIn (dir : Text) : P _ (DiskCache.openIn dir) := by
    refine hP.bind (hmakeDirs dir) fun made => ?_
    cases made <;> exact hP.pure _
  unfold DiskCache.open?
  split
  · refine hP.bind (hP.defaultDir henvironment) fun found => ?_
    cases found with
    | ok dir => exact hopenIn dir
    | error e => exact hP.pure _
  · exact hopenIn dir

end Opening

theorem openCache (hlog : ∀ entry, P _ (Logger.log entry))
    (hopen : ∀ dir, P _ (DiskCache.open? dir)) (hdrop : ∀ c : DiskCache, P _ c.dropAll)
    (o : Options) : P _ o.openCache := by
  unfold Options.openCache
  split
  · exact hP.pure _
  · refine hP.bind (hopen o.cacheDir) fun opened => ?_
    cases opened with
    | error e => exact hP.pure _
    | ok cache =>
      dsimp only
      split
      · refine hP.bind (hdrop cache) fun failure => ?_
        cases failure with
        | some e => exact hP.pure _
        | none => exact hP.bind (hlog _) fun _ => hP.pure _
      · exact hP.pure _

/-! ## Runs -/

theorem enter (hclock : P _ Host.clock) (g : Generation) (name : Text) : P _ (g.enter name) :=
  hP.bind hclock fun _ => hP.pure _

theorem leave (hclock : P _ Host.clock) (g : Generation) (phase : Nat) (note : Text) :
    P _ (g.leave phase note) :=
  hP.bind hclock fun _ => hP.pure _

theorem sources {plan : GenerationPlan} (hsource : ∀ g path, P _ (Generation.source g plan path))
    (g : Generation) (paths : List Text) : P _ (Generation.sources plan g paths) := by
  induction paths generalizing g with
  | nil => exact hP.pure _
  | cons path rest ih =>
    refine hP.bind (hsource g path) fun (ending, g) => ?_
    cases ending with
    | done => exact ih g
    | rejected => exact hP.pure _
    | failed e => exact hP.pure _

/-- A run has the property if its parts have it; its plan is made for its options and its
destination. -/
theorem generate (hclock : P _ Host.clock) (hdir : P _ Host.workingDir)
    (hcollect : ∀ path extension, P _ (AdtCompiler.collectSources path extension))
    (hopen : ∀ o : Options, P _ o.openCache) (o : Options) (source destination : Text)
    (hsources : ∀ session, Session.start o = .ok session → ∀ cache absolute g paths,
      P _ (Generation.sources ⟨session, cache, absolute, ⟨destination, session.backend.extension⟩⟩
        g paths)) :
    P _ (o.generate source destination) := by
  unfold Options.generate
  split
  · exact hP.pure _
  · rename_i session hstart
    split
    · exact hP.pure _
    · refine hP.bind ?_ fun _ => hP.pure _
      refine hP.bind (hP.enter hclock _ _) fun (g, phase) => ?_
      refine hP.bind (hcollect source _) fun found => ?_
      cases found with
      | error e => exact hP.bind (hP.leave hclock g phase _) fun _ => hP.pure _
      | ok paths =>
        refine hP.bind (hP.leave hclock g phase _) fun g => hP.bind (hopen _) fun opened => ?_
        cases opened with
        | error e => exact hP.pure _
        | ok cache =>
          refine hP.bind (hP.absolutePath hdir destination) fun absolute => ?_
          exact hsources session hstart cache absolute g paths

end Programs

/-! ## Units -/

/-- A property that goes through composition, and that the operations have with which units are
written. -/
structure WritesUnits (P : (α : Type) → m α → Prop) : Prop extends Compositional P where
  log : ∀ entry, P _ (Logger.log entry)
  status : ∀ path, P _ (Host.status path)
  makeDir : ∀ path, P _ (Host.makeDir path)
  createTemp : ∀ dir start ending, P _ (Host.createTemp dir start ending)
  append : ∀ handle text, P _ (Host.append handle text)
  close : ∀ handle, P _ (Host.close handle)
  rename : ∀ old new, P _ (Host.rename old new)
  remove : ∀ path, P _ (Host.remove path)

namespace WritesUnits

variable {P : (α : Type) → m α → Prop} (hP : WritesUnits P)

include hP

theorem createUnit (f : FileUnits) (name : Text) : P _ (f.create name) := by
  refine hP.bind (hP.makeDirs hP.status hP.makeDir _) fun made => ?_
  cases made with
  | error e => exact hP.pure _
  | ok _ =>
    refine hP.bind (hP.createTemp _ _ _) fun created => ?_
    cases created <;> exact hP.pure _

theorem writeTarget (t : FileTarget) (text : Text) : P _ (t.write text) := by
  refine hP.bind (hP.append _ _) fun appended => ?_
  cases appended <;> exact hP.pure _

theorem abortTarget (t : FileTarget) : P _ t.abort := by
  unfold FileTarget.abort
  split
  · exact hP.pure _
  · refine hP.bind (hP.close _) fun closed => hP.bind (hP.remove _) fun removed => ?_
    cases removed with
    | ok _ => cases closed <;> exact hP.pure _
    | error e =>
      dsimp only
      split
      · cases closed <;> exact hP.pure _
      · exact hP.pure _

theorem closeTarget (t : FileTarget) : P _ t.close := by
  unfold FileTarget.close
  split
  · exact hP.pure _
  · split
    · -- a write that failed is remembered, and the target is then aborted
      exact hP.bind (hP.abortTarget t) fun _ => hP.pure _
    · refine hP.bind (hP.close _) fun closed => ?_
      cases closed with
      | error e => exact hP.bind (hP.remove _) fun _ => hP.pure _
      | ok _ =>
        refine hP.bind (hP.rename _ _) fun renamed => ?_
        cases renamed with
        | error e => exact hP.bind (hP.remove _) fun _ => hP.pure _
        | ok _ => exact hP.pure _

theorem writePieces (t : FileTarget) (pieces : List Text) :
    P _ (AdtCompiler.writePieces FileTarget.write t pieces) := by
  induction pieces generalizing t with
  | nil => exact hP.pure _
  | cons piece rest ih =>
    refine hP.bind (hP.writeTarget t piece) fun (failure, t) => ?_
    cases failure with
    | some e => exact hP.pure _
    | none => exact ih t

theorem emitUnit (f : FileUnits) (t : FileTarget) (name : Text) (rendering : Rendering) :
    P _ (Emit.emitUnit f.factory t name rendering) := by
  refine hP.bind (hP.log _) fun _ => hP.bind ?_ fun (ending, t) => ?_
  · refine hP.bind (hP.writePieces t rendering.pieces) fun (failure, t) => ?_
    cases failure with
    | some e => exact hP.pure _
    | none => cases rendering.ending <;> exact hP.pure _
  · unfold Emit.releaseUnit
    dsimp only
    split
    · refine hP.bind (hP.closeTarget t) fun (failure, t) => ?_
      cases failure <;> exact hP.pure _
    · exact hP.bind (hP.abortTarget t) fun _ => hP.pure _

theorem emitUnits (f : FileUnits) (backend : Backend) (doc : Doc) (header : Text) (first : EmitEnd)
    (types : List DataType) :
    P _ (Emit.emitUnits backend f.factory doc header first types) := by
  induction types generalizing first with
  | nil => exact hP.pure _
  | cons d rest ih =>
    refine hP.bind (hP.createUnit f _) fun created => ?_
    cases created with
    | error failure => exact hP.pure _
    | ok t =>
      refine hP.bind (hP.emitUnit f t _ _) fun ending => ?_
      split
      · exact hP.pure _
      · exact ih _

/-- The emission of a document to files has every property that the operations have with which
units are written. -/
theorem emit (f : FileUnits) (doc : Doc) (backend : Backend) (version : Text) :
    P _ (doc.emit backend version f.factory) := by
  refine hP.bind (hP.log _) fun _ => ?_
  split
  · exact hP.pure _
  · exact hP.emitUnits f backend doc _ _ _

end WritesUnits

/-! ## Properties of all operations -/

/-- A property that goes through composition, and that all operations of the host have that the
compiler uses. -/
structure HostWide (P : (α : Type) → m α → Prop) : Prop extends WritesUnits P where
  load : ∀ path, P _ (Host.load path)
  entries : ∀ dir, P _ (Host.entries dir)
  workingDir : P _ Host.workingDir
  removeTree : ∀ path, P _ (Host.removeTree path)
  environment : ∀ name, P _ (Host.environment name)
  clock : P _ Host.clock
  timeStamp : P _ Host.timeStamp

namespace HostWide

variable {P : (α : Type) → m α → Prop} (hP : HostWide P)

include hP

theorem dropAll (c : DiskCache) : P _ c.dropAll := by
  refine hP.bind hP.timeStamp fun stamp => hP.bind (hP.rename _ _) fun renamed => ?_
  cases renamed with
  | error e =>
    dsimp only
    split <;> exact hP.pure _
  | ok _ =>
    refine hP.bind (hP.removeTree _) fun removed => ?_
    cases removed <;> exact hP.pure _

theorem put (c : DiskCache) (key : Text) (entry : CacheEntry) : P _ (c.put key entry) := by
  -- each failure behind the creation of the temporary file ends in the same way
  have hgiveUp (temp : Handle) (failure : Failure) : P (Option Failure) (do
      let _ ← Host.close temp
      let _ ← Host.remove temp.name
      return some failure) :=
    hP.bind (hP.close temp) fun _ => hP.bind (hP.remove _) fun _ => hP.pure _
  refine hP.bind (hP.makeDirs hP.status hP.makeDir _) fun made => ?_
  cases made with
  | error e => exact hP.pure _
  | ok _ =>
    refine hP.bind (hP.createTemp _ _ _) fun created => ?_
    cases created with
    | error e => exact hP.pure _
    | ok temp =>
      refine hP.bind (hP.append temp _) fun appended => ?_
      cases appended with
      | error e => exact hgiveUp temp _
      | ok _ =>
        refine hP.bind (hP.close temp) fun closed => ?_
        cases closed with
        | error e => exact hgiveUp temp _
        | ok _ =>
          refine hP.bind (hP.rename _ _) fun renamed => ?_
          cases renamed with
          | error e => exact hgiveUp temp _
          | ok _ => exact hP.pure _

theorem survey (hashed : Bool) (found : Generation.Written) (paths : List Text) :
    P _ (Generation.survey hashed found paths) := by
  induction paths generalizing found with
  | nil => exact hP.pure _
  | cons path rest ih =>
    unfold Generation.survey
    dsimp only
    split
    · refine hP.bind (hP.fileDigest hP.load path) fun digest => ?_
      cases digest with
      | error e => exact hP.pure _
      | ok digest => exact ih _
    · exact ih _

variable (plan : GenerationPlan)

theorem remember (path key : Text) (found : Generation.Written) :
    P _ (Generation.remember plan path key found) := by
  unfold Generation.remember
  split
  · exact hP.pure _
  · refine hP.bind (hP.put _ key _) fun failure => ?_
    cases failure with
    | none => exact hP.pure _
    | some e => exact hP.log _

theorem emitSource (g : Generation) (path key : Text) (doc : Doc) :
    P _ (g.emit plan path key doc) := by
  refine hP.bind (hP.enter hP.clock g _) fun (g, phase) => ?_
  refine hP.bind (hP.emit _ doc _ _) fun ending => ?_
  refine hP.bind (hP.leave hP.clock g phase _) fun g => ?_
  cases ending with
  | failed e => exact hP.pure _
  | crashed => exact hP.pure _
  | done =>
    refine hP.bind (hP.survey _ _ _) fun (failure, found) => ?_
    cases failure with
    | some e => exact hP.pure _
    | none =>
      refine hP.bind (hP.log _) fun _ => ?_
      exact hP.bind (hP.remember plan path key found) fun _ => hP.pure _

theorem compile (g : Generation) (path key : Text) (file : SourceFile) :
    P _ (g.compile plan path key file) := by
  refine hP.bind (hP.enter hP.clock g _) fun (g, phase) => ?_
  dsimp only
  -- what is parsed and found depends on the file alone, so any result will do
  generalize plan.session.parse file g.bag = parsed
  match parsed with
  | .error e => exact hP.pure _
  | .ok (none, bag) => exact hP.bind (hP.leave hP.clock _ phase _) fun g => hP.pure _
  | .ok (some doc, bag) =>
    refine hP.bind (hP.leave hP.clock _ phase _) fun g => ?_
    refine hP.bind (hP.enter hP.clock g _) fun (g, phase) => ?_
    dsimp only
    generalize plan.session.check file doc g.bag = checked
    obtain ⟨passes, bag⟩ := checked
    refine hP.bind (hP.leave hP.clock _ phase _) fun g => ?_
    cases passes with
    | true => exact hP.emitSource plan g path key doc
    | false => exact hP.pure _

theorem source (g : Generation) (path : Text) : P _ (g.source plan path) := by
  refine hP.bind (hP.enter hP.clock g _) fun (g, phase) => hP.bind ?_ fun loaded => ?_
  · refine hP.bind (hP.load path) fun found => ?_
    cases found <;> exact hP.pure _
  · refine hP.bind (hP.leave hP.clock g phase _) fun g => ?_
    cases loaded with
    | error e => exact hP.pure _
    | ok loaded =>
      refine hP.bind (hP.isCached hP.load hP.log plan path _) fun cached => ?_
      split
      · exact hP.bind (hP.log _) fun _ => hP.pure _
      · exact hP.compile plan _ path _ _

/-- Whole runs have every property that goes through composition and that all operations have. -/
theorem run (o : Options) (source destination : Text) : P _ (o.generate source destination) := by
  have hmakeDirs := hP.makeDirs hP.status hP.makeDir
  refine hP.generate hP.clock hP.workingDir (hP.collectSources hP.status hP.entries) ?_ o source
    destination fun _ _ _ _ => hP.sources (hP.source _)
  exact hP.openCache hP.log (hP.open? hP.environment hmakeDirs) hP.dropAll

end HostWide

end Compositional

end AdtCompiler
