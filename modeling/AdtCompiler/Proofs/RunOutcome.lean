import AdtCompiler.Proofs.CacheClearing
import AdtCompiler.Proofs.Collecting
import AdtCompiler.Proofs.LineEnds
import AdtCompiler.Proofs.UnitSequence
import Mathlib.Algebra.Group.Nat.Defs

/-!
# Where a run stops

A run without a cache works on its sources in order and stops at the first bad one: one that is no
document, or one whose names clash. What it leaves is what the documents of the sources before that
one leave when they are emitted one after another. The bad source is always reported, because the
bag of a run has room for one diagnostic at least, and nothing is reported before it.

## Contents

- `Session.docAt`: the document of a source, `Session.goodSources`: the sources before the first
  bad one
- `Generation.run_sources`: the work on sources up to the first bad one
- `Options.generate_stops_at_first_bad`: what a whole run does, and what it leaves
-/

namespace AdtCompiler

open Store (Publishes)

/-! ## Documents of sources -/

namespace FileSet

variable {files : FileSet} {path bytes : Text}

theorem size_loaded (files : FileSet) (path bytes : Text) :
    (files.loaded path bytes).1.size = files.size + 1 :=
  Array.size_push _

/-- A loaded file has the content of its source and the cleaned path, whatever its number is. -/
theorem loaded_snd (h : files.size < 2 ^ 32) (path bytes : Text) :
    (files.loaded path bytes).2.path = Path.clean path ∧
      (files.loaded path bytes).2.content = (Source.normalize bytes).1 := by
  have hid : files.files.size.toUInt32.toNat = files.files.size := Nat.mod_eq_of_lt h
  have hget (f : SourceFile) : (FileSet.mk (files.files.push f)).get? files.files.size.toUInt32 =
      some f := by
    rw [get?, hid, Array.getElem?_push_size]
  constructor <;> simp [loaded, addLoaded, add, hget]

end FileSet

namespace Session

variable {session : Session} {s : Store} {path : Text} {paths : List Text} {doc : Doc}

/-- The document of a file, if it is one without clashes. -/
def doc? (session : Session) (file : SourceFile) : Option Doc :=
  (file.parse session.backend.wordTable).toOption.filter fun doc =>
    (doc.check session.backend.rules).isEmpty

/-- The document of the source at a path, if it can be read and is one without clashes. -/
def docAt (session : Session) (s : Store) (path : Text) : Option Doc :=
  (s.load path).toOption.bind fun bytes => session.doc? (FileSet.loaded {} path bytes).2

/-- The sources before the first bad one. -/
def goodSources (session : Session) (s : Store) (paths : List Text) : List Text :=
  paths.takeWhile fun path => (session.docAt s path).isSome

/-- The documents of the sources before the first bad one. -/
def goodDocs (session : Session) (s : Store) (paths : List Text) : List Doc :=
  (session.goodSources s paths).filterMap (session.docAt s)

/-- What is read depends on the path and the content of a file alone. -/
theorem doc?_congr {file other : SourceFile} (hpath : file.path = other.path)
    (hcontent : file.content = other.content) : session.doc? file = session.doc? other := by
  have hread {file other : SourceFile} (hpath : file.path = other.path)
      (hcontent : file.content = other.content) {doc : Doc}
      (h : file.parse session.backend.wordTable = .ok doc) :
      other.parse session.backend.wordTable = .ok doc := by
    obtain ⟨hsource, hother⟩ := SourceFile.parse_eq_ok_congr hcontent h
    rw [hother, ← hpath, ← hsource]
  -- the errors may differ, since they name the source, but not whether there is a document
  have hparse : (file.parse session.backend.wordTable).toOption =
      (other.parse session.backend.wordTable).toOption := by
    rcases h : file.parse session.backend.wordTable with e | doc
    · rcases h' : other.parse session.backend.wordTable with e' | doc'
      · rfl
      · rw [hread hpath.symm hcontent.symm h'] at h
        cases h
    · rw [hread hpath hcontent h]
  rw [doc?, doc?, hparse]

theorem doc?_loaded {files : FileSet} (h : files.size < 2 ^ 32) (path bytes : Text) :
    session.doc? (files.loaded path bytes).2 = session.doc? (FileSet.loaded {} path bytes).2 := by
  obtain ⟨hpath, hcontent⟩ := FileSet.loaded_snd h path bytes
  have hnone : FileSet.size {} < 2 ^ 32 := by decide
  obtain ⟨hpath', hcontent'⟩ := FileSet.loaded_snd hnone path bytes
  exact doc?_congr (hpath.trans hpath'.symm) (hcontent.trans hcontent'.symm)

theorem docAt_of_load {bytes : Text} (hload : s.load path = .ok bytes) :
    session.docAt s path = session.doc? (FileSet.loaded {} path bytes).2 := by
  rw [docAt, hload]
  rfl

theorem accepts_of_doc? {file : SourceFile} (h : session.doc? file = some doc) :
    session.Accepts doc := by
  have hdoc : (Job.mk ⟨session, none, [], ⟨[], []⟩⟩ [] file).doc? = some doc := h
  exact ⟨Job.readable_of_doc? hdoc, Job.namesApart_of_doc? hdoc⟩

theorem accepts_of_mem_goodDocs (h : doc ∈ session.goodDocs s paths) : session.Accepts doc := by
  obtain ⟨path, -, hdoc⟩ := List.mem_filterMap.mp h
  obtain ⟨bytes, -, hfile⟩ := Option.bind_eq_some_iff.mp hdoc
  exact accepts_of_doc? hfile

theorem goodSources_cons_none (h : session.docAt s path = none) :
    session.goodSources s (path :: paths) = [] := by
  simp [goodSources, h]

theorem goodSources_cons_some (h : session.docAt s path = some doc) :
    session.goodSources s (path :: paths) = path :: session.goodSources s paths := by
  simp [goodSources, h]

theorem goodDocs_cons_none (h : session.docAt s path = none) :
    session.goodDocs s (path :: paths) = [] := by
  rw [goodDocs, goodSources_cons_none h, List.filterMap_nil]

theorem goodDocs_cons_some (h : session.docAt s path = some doc) :
    session.goodDocs s (path :: paths) = doc :: session.goodDocs s paths := by
  rw [goodDocs, goodSources_cons_some h, List.filterMap_cons_some h, goodDocs]

end Session

/-! ## One source -/

namespace Generation

variable {g : Generation} {plan : GenerationPlan} {path bytes : Text} {w w₁ : World} {doc : Doc}

theorem run_isCached_none (hcache : plan.cache = none) (path key : Text) (w : World) :
    (isCached plan path key : StateM World _).run w = (false, w) := by
  unfold isCached
  rw [hcache]
  rfl

/-- Without a cache, a bad source is rejected and reported, and nothing is done for it. -/
theorem run_source_rejected (hcache : plan.cache = none) (hbytes : w.store.load path = .ok bytes)
    (hsize : (g.files.loaded path bytes).2.content.length < UInt32.size)
    (hdoc : plan.session.doc? (g.files.loaded path bytes).2 = none) :
    ∃ g', (g.source plan path : StateM World _).run w = ((.rejected, g'), w) ∧
      g'.outputs = g.outputs ∧ (g.bag.size < g.bag.limit → g'.bag.hasErrors = true) := by
  obtain ⟨timer, hsource⟩ := run_source_compile hbytes (run_isCached_none hcache path _ w)
  obtain ⟨timer', bag, hcompile, hreport⟩ :=
    run_compile_rejected (j := ⟨plan, path, (g.files.loaded path bytes).2⟩) hsize hdoc
      { g with timer, files := (g.files.loaded path bytes).1 } w
  exact ⟨_, hsource.trans hcompile, rfl, hreport⟩

/-- Without a cache, a source that is too long for offsets makes the work on it fail. -/
theorem run_source_long (hcache : plan.cache = none) (hbytes : w.store.load path = .ok bytes)
    (hsize : UInt32.size ≤ (g.files.loaded path bytes).2.content.length) :
    ∃ g', (g.source plan path : StateM World _).run w =
      ((.failed (.ofCause .impossible), g'), w) := by
  obtain ⟨timer, hsource⟩ := run_source_compile hbytes (run_isCached_none hcache path _ w)
  obtain ⟨timer', hcompile⟩ :=
    run_compile_long (j := ⟨plan, path, (g.files.loaded path bytes).2⟩) hsize
      { g with timer, files := (g.files.loaded path bytes).1 } w
  exact ⟨_, hsource.trans hcompile⟩

/-- Without a cache, the work on a good source is the emission of its document. -/
theorem run_source_done (hcache : plan.cache = none) (hbytes : w.store.load path = .ok bytes)
    (hdoc : plan.session.doc? (g.files.loaded path bytes).2 = some doc)
    (hemit : (doc.emit plan.session.backend plan.session.options.versionText plan.units.factory :
      StateM World _).run w = (.done, w₁))
    (hloads : ∀ d ∈ doc.types, w₁.store.load (plan.units.unitPath doc d) =
      .ok (doc.unitText plan.session.backend plan.session.options.versionText d)) :
    ∃ g' w', (g.source plan path : StateM World _).run w = ((.done, g'), w') ∧
      w'.store = w₁.store ∧ g'.bag = g.bag ∧ g'.files.size = g.files.size + 1 ∧
      g'.outputs = g.outputs ++ doc.types.map (plan.units.unitPath doc) := by
  let j : Job := ⟨plan, path, (g.files.loaded path bytes).2⟩
  obtain ⟨timer, hsource⟩ := run_source_compile hbytes (run_isCached_none hcache path _ w)
  obtain ⟨timer', hcompile⟩ := run_compile_accepted (j := j) hdoc
    { g with timer, files := (g.files.loaded path bytes).1 } w
  obtain ⟨timer₂, found, w₂, hstore, -, hrun⟩ := run_emit_done (j := j) hemit hloads
    { g with timer := timer', files := (g.files.loaded path bytes).1 }
  have hremember : (remember j.plan j.path j.key found : StateM World _).run w₂ = ((), w₂) := by
    unfold remember
    rw [hcache]
    rfl
  refine ⟨_, w₂, hsource.trans (hcompile.trans (hrun w₂ hremember)), hstore, rfl, ?_, rfl⟩
  exact g.files.size_loaded path bytes

/-! ## All sources -/

/-- Work on sources, without a cache, from a bag that is empty. The sources are read as they were
at the start, because no unit is written to them. -/
theorem run_sources (hplan : plan.Proper) (hcache : plan.cache = none) {s₀ s' : Store}
    {paths : List Text} (hs : w.store.Numbered)
    (hsize : g.files.size + paths.length ≤ 2 ^ 32) (hempty : g.bag.items = [])
    (hroom : 0 < g.bag.limit)
    (hreads : ∀ path ∈ paths, ∃ bytes, s₀.load path = .ok bytes ∧ w.store.load path = .ok bytes ∧
      (Source.normalize bytes).1.length < UInt32.size)
    (hbelow : ∀ path ∈ paths, ¬ w.store.Below path plan.units.dir)
    (hemit : plan.session.emitAll plan.units w.store (plan.session.goodDocs s₀ paths) = some s') :
    ∃ g' w', (sources plan g paths : StateM World _).run w = ((none, g'), w') ∧ w'.store = s' ∧
      g'.outputs = g.outputs ++
        (plan.session.unitsOf plan.units (plan.session.goodDocs s₀ paths)).map (·.1) ∧
      (g'.bag.hasErrors = true ↔ (plan.session.goodSources s₀ paths).length < paths.length) := by
  induction paths generalizing g w with
  | nil =>
    cases hemit
    refine ⟨g, w, rfl, rfl, (List.append_nil _).symm, ?_⟩
    simp [Bag.hasErrors, hempty, Session.goodSources]
  | cons path rest ih =>
    rw [List.length_cons] at hsize
    obtain ⟨⟨bytes, hstart, hbytes, hshort⟩, hreads⟩ := List.forall_mem_cons.mp hreads
    obtain ⟨-, hbelow⟩ := List.forall_mem_cons.mp hbelow
    have hfile : plan.session.docAt s₀ path =
        plan.session.doc? (g.files.loaded path bytes).2 := by
      rw [Session.docAt_of_load hstart]
      exact (Session.doc?_loaded (by omega) path bytes).symm
    -- The source is bad and the run stops, or its document is the next one to be emitted.
    cases hdoc : plan.session.docAt s₀ path with
    | none =>
      rw [Session.goodDocs_cons_none hdoc] at hemit ⊢
      rw [Session.goodSources_cons_none hdoc]
      cases hemit
      have hcount : g.files.size < 2 ^ 32 := by omega
      rw [← (FileSet.loaded_snd hcount path bytes).2] at hshort
      obtain ⟨g', hsource, houtputs, hreport⟩ :=
        run_source_rejected hcache hbytes hshort (hfile.symm.trans hdoc)
      refine ⟨g', w, run_bind hsource _, rfl, by rw [houtputs]; exact (List.append_nil _).symm, ?_⟩
      -- Nothing was reported before, so there is room for the first report.
      have herrors : g'.bag.hasErrors = true := hreport (by rwa [Bag.size, hempty])
      simp [herrors]
    | some doc =>
      rw [Session.goodDocs_cons_some hdoc] at hemit ⊢
      rw [Session.goodSources_cons_some hdoc]
      have haccepts := Session.accepts_of_doc? (hfile.symm.trans hdoc)
      obtain ⟨w₁, hrun, hrest⟩ := Session.run_emit_of_emitAll hemit
      have hpublishes := Session.publishes_emit hplan.extension haccepts hs hrun
      obtain ⟨g₁, w₂, hsource, hstore, hbag, hfiles, houtputs⟩ :=
        run_source_done hcache hbytes (hfile.symm.trans hdoc) hrun
          (Doc.load_of_emit_done hplan.extension haccepts.1 haccepts.2 hs hrun)
      rw [← hstore] at hrest hpublishes
      -- No unit leads to a source that is still to be read.
      have hreads' : ∀ path ∈ rest, ∃ bytes, s₀.load path = .ok bytes ∧
          w₂.store.load path = .ok bytes ∧ (Source.normalize bytes).1.length < UInt32.size := by
        intro path hpath
        obtain ⟨bytes, hstart, hbytes, hshort⟩ := hreads path hpath
        refine ⟨bytes, hstart, ?_, hshort⟩
        exact Session.load_eq_ok_of_publishes hplan.extension
          (List.forall_mem_singleton.mpr haccepts) hpublishes hbytes (hbelow path hpath)
      have hbelow' : ∀ path ∈ rest, ¬ w₂.store.Below path plan.units.dir := by
        intro path hpath
        rw [Store.below_congr hpublishes.rewrites.workingDir]
        exact hbelow path hpath
      obtain ⟨g', w', hsources, hstore', houtputs', herrors⟩ :=
        ih hpublishes.rewrites.numbered (by omega) (hbag ▸ hempty) (hbag ▸ hroom) hreads' hbelow'
          hrest
      refine ⟨g', w', (run_bind hsource _).trans hsources, hstore', ?_, ?_⟩
      · rw [houtputs', houtputs, Session.unitsOf_cons]
        simp [Session.unitsOf]
      · rw [herrors]
        simp

end Generation

/-! ## Runs -/

/-- What a run has done once it knows its sources. -/
def Generation.collected (bag : Bag) (count : Nat) : Generation where
  bag
  timer := ⟨[⟨"collect", 0, 0, Text.decimal count ++ " sources"⟩]⟩

/-- Up to the first source a run only looks, but for the opening of its cache. -/
theorem Session.run_generate {session : Session} {source : Text} {w w₁ : World}
    {cache : Option DiskCache} {paths : List Text}
    (hcollect : ((collectSources source session.options.sourceExtension :
      StateM World _).run w).1 = .ok paths)
    (hopen : (session.options.openCache : StateM World _).run w = (.ok cache, w₁)) (bag : Bag)
    (destination : Text) :
    (session.generate bag source destination : StateM World _).run w =
      (Generation.sources ⟨session, cache, ((absolutePath destination : StateM World _).run w₁).1,
        ⟨destination, session.backend.extension⟩⟩ (.collected bag paths.length) paths :
          StateM World _).run w₁ := by
  have henter : (Generation.enter { bag } "collect" : StateM World _).run w =
      (({ bag, timer := ⟨[⟨"collect", 0, 0, []⟩]⟩ }, 0), w) := rfl
  have hcollected : (collectSources source session.options.sourceExtension :
      StateM World _).run w = (.ok paths, w) :=
    Prod.ext hcollect (OnlyLooks.collectSources source _ w)
  have hleave : (Generation.leave { bag, timer := ⟨[⟨"collect", 0, 0, []⟩]⟩ } 0
      (Text.decimal paths.length ++ " sources") : StateM World _).run w =
        (.collected bag paths.length, w) := rfl
  have habsolute : (absolutePath destination : StateM World _).run w₁ =
      (((absolutePath destination : StateM World _).run w₁).1, w₁) :=
    Prod.ext rfl (OnlyLooks.absolutePath destination w₁)
  refine (run_bind henter _).trans ((run_bind hcollected _).trans ?_)
  exact (run_bind hleave _).trans ((run_bind hopen _).trans (run_bind habsolute _))

/-- A run whose cache cannot be opened fails. -/
theorem Session.run_generate_unopened {session : Session} {source : Text} {w w₁ : World}
    {paths : List Text} {e : Failure}
    (hcollect : ((collectSources source session.options.sourceExtension :
      StateM World _).run w).1 = .ok paths)
    (hopen : (session.options.openCache : StateM World _).run w = (.error e, w₁)) (bag : Bag)
    (destination : Text) :
    ∃ g, (session.generate bag source destination : StateM World _).run w = ((some e, g), w₁) := by
  obtain ⟨timer, phase, henter⟩ := ({ bag } : Generation).run_enter "collect" w
  have hcollected : (collectSources source session.options.sourceExtension :
      StateM World _).run w = (.ok paths, w) :=
    Prod.ext hcollect (OnlyLooks.collectSources source _ w)
  obtain ⟨timer', hleave⟩ := ({ bag, timer } : Generation).run_leave phase
    (Text.decimal paths.length ++ " sources") w
  refine ⟨{ bag, timer := timer' }, (run_bind henter _).trans ?_⟩
  exact (run_bind hcollected _).trans ((run_bind hleave _).trans (run_bind hopen _))

/-- A new bag is empty and has room. -/
theorem Session.newBag_eq_ok {session : Session} {bag : Bag} (h : session.newBag = .ok bag) :
    bag.items = [] ∧ 0 < bag.limit := by
  have hpositive : 0 < session.options.diagnosticLimit := by
    unfold Options.diagnosticLimit
    split <;> omega
  unfold newBag Bag.create? at h
  split at h
  case h_1 hsome =>
    split at hsome
    · cases hsome
    · cases hsome
      cases h
      exact ⟨rfl, by simpa using hpositive⟩
  case h_2 => cases h

namespace Options

variable {o : Options} {session : Session}

/-- A run has a bag with room for one diagnostic at least, unless its limit is beyond all bounds. -/
theorem exists_newBag (hstart : Session.start o = .ok session)
    (hlimit : o.maxDiagnostics ≤ Bag.maxLimit) :
    ∃ bag, session.newBag = .ok bag ∧ bag.items = [] ∧ 0 < bag.limit := by
  have hoptions := MakesHistory.options_of_start hstart
  have hbounds : 0 < o.diagnosticLimit ∧ o.diagnosticLimit ≤ Bag.maxLimit := by
    unfold diagnosticLimit
    split
    · exact ⟨by decide, by decide⟩
    · exact ⟨by omega, hlimit⟩
  refine ⟨⟨[], o.diagnosticLimit.toNat⟩, ?_, rfl, by simpa using hbounds.1⟩
  rw [Session.newBag, hoptions, Bag.create?, if_neg (by omega)]

/-- Without a cache, opening the cache gives none, even if one is to be cleared. -/
theorem openCache_eq_none {w w₁ : World} {cache : Option DiskCache} (hcache : o.cache = false)
    (h : (o.openCache : StateM World _).run w = (.ok cache, w₁)) : cache = none := by
  unfold openCache at h
  split at h
  · cases h
    rfl
  · -- the cache is opened only to be cleared, and is not returned
    obtain ⟨⟨opened, w₂⟩, hopen⟩ : ∃ r, (DiskCache.open? o.cacheDir : StateM World _).run w = r :=
      ⟨_, rfl⟩
    rw [run_bind hopen] at h
    cases opened with
    | error e => cases h
    | ok c =>
      dsimp only at h
      rw [hcache] at h
      split at h
      · obtain ⟨⟨failure, w₃⟩, hdrop⟩ : ∃ r, (c.dropAll : StateM World _).run w₂ = r := ⟨_, rfl⟩
        rw [run_bind hdrop] at h
        cases failure <;> cases h
        rfl
      · cases h
        rfl

/-- A run that ends without a failure has a bag and a cache, and all that it does after opening the
cache is its work on the sources. -/
theorem exists_sources_of_generate {source destination : Text} {w w' : World}
    {paths : List Text} {g : Generation} (hstart : Session.start o = .ok session)
    (hcollect : ((collectSources source o.sourceExtension : StateM World _).run w).1 = .ok paths)
    (hrun : (o.generate source destination : StateM World _).run w = (.ok (none, g), w')) :
    ∃ bag cache w₁, session.newBag = .ok bag ∧
      (o.openCache : StateM World _).run w = (.ok cache, w₁) ∧
      (Generation.sources ⟨session, cache, ((absolutePath destination : StateM World _).run w₁).1,
        ⟨destination, session.backend.extension⟩⟩ (.collected bag paths.length) paths :
          StateM World _).run w₁ = ((none, g), w') := by
  obtain rfl := MakesHistory.options_of_start hstart
  rw [generate, hstart] at hrun
  dsimp only at hrun
  cases hbag : session.newBag with
  | error e =>
    -- a session that gets no bag fails
    rw [hbag] at hrun
    cases hrun
  | ok bag =>
    rw [hbag] at hrun
    obtain ⟨⟨result, w₂⟩, hsession⟩ : ∃ r,
      (session.generate bag source destination : StateM World _).run w = r := ⟨_, rfl⟩
    cases (run_bind hsession _).symm.trans hrun
    obtain ⟨⟨opened, w₁⟩, hopen⟩ : ∃ r,
      (session.options.openCache : StateM World _).run w = r := ⟨_, rfl⟩
    cases opened with
    | error e =>
      -- so does one that cannot open its cache
      obtain ⟨g', hfails⟩ := Session.run_generate_unopened hcollect hopen bag destination
      cases hsession.symm.trans hfails
    | ok cache =>
      have hgenerate := Session.run_generate hcollect hopen bag destination
      exact ⟨bag, cache, w₁, rfl, hopen, hgenerate.symm.trans hsession⟩

/-- What a run leaves behind that stops without failure: `w₁` is the world once the cache was
opened, and `s'` has the files in the end. -/
structure StopsCleanly (o : Options) (session : Session) (f : FileUnits) (w w₁ : World)
    (paths : List Text) (g : Generation) (s' : Store) : Prop where
  /-- The outputs are the units of the sources before the first bad one, in order. -/
  outputs : g.outputs =
    (session.unitsOf f (session.goodDocs w₁.store paths)).map (·.1)
  /-- Each of their paths holds the text that is listed last for it. -/
  published : ∀ path text,
    (session.unitsOf f (session.goodDocs w₁.store paths)).reverse.lookup path = some text →
      s'.load path = .ok text
  /-- All other files are as they were, but for those at or below a place that was cleared. -/
  others : ∀ q, (∀ p ∈ o.clearedPlaces w, ¬ p <+: q) →
    (∀ x ∈ session.unitsOf f (session.goodDocs w₁.store paths), s'.place x.1 ≠ .ok q) →
      ∀ t, s'.held q = some (.file t) ↔ w.store.held q = some (.file t)
  /-- An error is reported if there is a bad source, and only then. -/
  errors : g.bag.hasErrors = true ↔ (session.goodSources w₁.store paths).length < paths.length

/-- **A run stops at the first bad source, and never hides it.** Without a cache, without a source
that is too long for offsets, and without a failure of files or of rendering, a run ends well. The
files are left as the emission of the documents before the first bad source leaves them, one after
another; nothing is done for the bad source or for those behind it. -/
theorem generate_stops_at_first_bad {source destination : Text} {w w₁ : World}
    {cache : Option DiskCache} {paths : List Text} {s' : Store}
    (hstart : Session.start o = .ok session) (hcache : o.cache = false)
    (hlimit : o.maxDiagnostics ≤ Bag.maxLimit) (hs : w.store.Numbered)
    (hcollect : ((collectSources source o.sourceExtension : StateM World _).run w).1 = .ok paths)
    (hopen : (o.openCache : StateM World _).run w = (.ok cache, w₁))
    (hcount : paths.length ≤ 2 ^ 32)
    (hreads : ∀ path ∈ paths, ∃ bytes, w₁.store.load path = .ok bytes ∧
      (Source.normalize bytes).1.length < UInt32.size)
    (hbelow : ∀ path ∈ paths, ¬ w.store.Below path destination)
    (hemit : session.emitAll ⟨destination, session.backend.extension⟩ w₁.store
      (session.goodDocs w₁.store paths) = some s') :
    ∃ g w', (o.generate source destination : StateM World _).run w = (.ok (none, g), w') ∧
      w'.store = s' ∧ o.StopsCleanly session ⟨destination, session.backend.extension⟩ w w₁ paths g
        s' := by
  cases openCache_eq_none hcache hopen
  have hoptions := MakesHistory.options_of_start hstart
  obtain ⟨bag, hbag, hempty, hroom⟩ := exists_newBag hstart hlimit
  have hcleared := o.agreesOutside_openCache hs
  have hnumbered := (AddsNoEntry.openCache o w hs).numbered
  rw [hopen] at hcleared hnumbered
  have hbelow₁ : ∀ path ∈ paths, ¬ w₁.store.Below path destination := by
    intro path hpath
    rw [Store.below_congr hcleared.workingDir]
    exact hbelow path hpath
  rw [← hoptions] at hcollect hopen
  have hgenerate := Session.run_generate hcollect hopen bag destination
  generalize ((absolutePath destination : StateM World _).run w₁).1 = absolute at hgenerate
  have hplan : GenerationPlan.Proper
      ⟨session, none, absolute, ⟨destination, session.backend.extension⟩⟩ :=
    ⟨hoptions ▸ hstart, rfl⟩
  obtain ⟨g, w', hsources, hstore, houtputs, herrors⟩ :=
    Generation.run_sources (g := .collected bag paths.length) hplan rfl hnumbered
      (by simpa [Generation.collected, FileSet.size] using hcount) hempty hroom
      (fun path hpath => (hreads path hpath).imp fun bytes h => ⟨h.1, h.1, h.2⟩) hbelow₁ hemit
  have hpublishes := Session.publishes_emitAll hplan.extension
    (fun doc => Session.accepts_of_mem_goodDocs) hnumbered hemit
  refine ⟨g, w', ?_, hstore, houtputs, hpublishes.loads, fun q hq hunits t => ?_, herrors⟩
  · rw [generate, hstart]
    dsimp only
    rw [hbag]
    exact run_bind (hgenerate.trans hsources) _
  · exact (hpublishes.held_iff hunits).trans (hcleared.file q hq t)

end Options

/-! ## A run that stops -/

namespace StoppedRun

/-- Four sources, of which the first two have a unit of one path and the third is no document, and
a destination with a file. -/
def start : World where
  store :=
    { nodes :=
        [([("d" : Text)], .directory), ([("d" : Text), ("a.adt" : Text)], .file 0),
          ([("d" : Text), ("b.adt" : Text)], .file 1), ([("d" : Text), ("c.adt" : Text)], .file 2),
          ([("d" : Text), ("e.adt" : Text)], .file 3), ([("out" : Text)], .directory),
          ([("out" : Text), ("keep.txt" : Text)], .file 4)]
      contents := [(0, "A = A\n"), (1, "A = X | Y\n"), (2, "C =\n"), (3, "E = E\n"), (4, "k")]
      next := 5 }

def session : Session := ⟨{}, .java⟩

def units : FileUnits := ⟨"out", ".java"⟩

def paths : List Text := ["d/a.adt", "d/b.adt", "d/c.adt", "d/e.adt"]

/-- The document of the first source. -/
def first : Doc := ⟨"d/a.adt", [], [], [⟨"A", [], [⟨"A", []⟩]⟩]⟩

/-- The data type of the second source. -/
def dataType : DataType := ⟨"A", [], [⟨"X", []⟩, ⟨"Y", []⟩]⟩

/-- The document of the second source. -/
def second : Doc := ⟨"d/b.adt", [], [], [dataType]⟩

theorem numbered : start.store.Numbered := by
  intro q id h
  unfold Store.node? at h
  split at h
  · cases h
  · have hmem := Store.mem_of_lookup h
    simp only [start, List.mem_cons, Prod.mk.injEq, Node.file.injEq] at hmem
    show id < 5
    grind

theorem entries_start : start.store.entries "d" = .ok
    [("a.adt", .regular), ("b.adt", .regular), ("c.adt", .regular), ("e.adt", .regular)] := by
  have hfind : start.store.find "d" = .ok ([("d" : Text)], .directory) := rfl
  have hsorted : (["a.adt", "b.adt", "c.adt", "e.adt"] : List Text).Pairwise fun name other =>
    Text.le name other = true := by decide
  exact Store.entries_of_sorted hfind (by rfl) hsorted

theorem collect_start : ((collectSources "d" ({} : Options).sourceExtension :
    StateM World _).run start).1 = .ok paths := by
  have hfiles : filesIn start maxPath "d" = .ok paths :=
    filesIn_eq_ok.mpr ⟨_, entries_start, by simp, rfl⟩
  have hsorted : paths.Pairwise fun name other => Text.le name other = true := by decide
  rw [collectSources_of_directory rfl hfiles]
  exact congrArg Except.ok (List.mergeSort_of_pairwise hsorted)

theorem reads_start : ∀ path ∈ paths, ∃ bytes, start.store.load path = .ok bytes ∧
    (Source.normalize bytes).1.length < UInt32.size := by
  have hall : ∀ path ∈ paths, ((start.store.load path).toOption.any fun bytes =>
      decide ((Source.normalize bytes).1.length < UInt32.size)) = true := by decide +kernel
  intro path hpath
  have hread := hall path hpath
  cases hload : start.store.load path with
  | error e =>
    rw [hload] at hread
    cases hread
  | ok bytes =>
    rw [hload] at hread
    exact ⟨bytes, rfl, of_decide_eq_true hread⟩

theorem goodDocs_start : session.goodDocs start.store paths = [first, second] := rfl

/-- One source with the given bytes. -/
def single (bytes : Text) : World where
  store := { nodes := [([("a.adt" : Text)], .file 0)], contents := [(0, bytes)], next := 1 }

/-- A run on a source that is too long for offsets fails. -/
theorem run_generate_long {bytes : Text}
    (hlong : UInt32.size ≤ (Source.normalize bytes).1.length) :
    ∃ g, (({} : Options).generate "a.adt" "out" : StateM World _).run (single bytes) =
      (.ok (some (.ofCause .impossible), g), single bytes) := by
  have hcollect : ((collectSources "a.adt" session.options.sourceExtension :
      StateM World _).run (single bytes)).1 = .ok ["a.adt"] := rfl
  have hopen : (session.options.openCache : StateM World _).run (single bytes) =
      (.ok none, single bytes) := rfl
  have hload : (single bytes).store.load "a.adt" = .ok bytes := rfl
  have hnone : FileSet.size {} < 2 ^ 32 := by decide
  rw [← (FileSet.loaded_snd hnone "a.adt" bytes).2] at hlong
  have hgenerate := Session.run_generate hcollect hopen ⟨[], 100⟩ "out"
  generalize ((absolutePath "out" : StateM World _).run (single bytes)).1 = absolute at hgenerate
  have hcache : (GenerationPlan.mk session none absolute units).cache = none := rfl
  obtain ⟨g, hsource⟩ :=
    Generation.run_source_long (g := .collected ⟨[], 100⟩ 1) hcache hload hlong
  exact ⟨g, run_bind (hgenerate.trans (run_bind hsource _)) _⟩

end StoppedRun

open StoppedRun in
/-- The third source stops the run. The file of the unit that the first two sources share has the
text from the second. -/
theorem Options.generate_stops_at_third :
    ∃ g w', (({} : Options).generate "d" "out" : StateM World _).run start = (.ok (none, g), w') ∧
      g.outputs = ["out/A.java", "out/A.java"] ∧ g.bag.hasErrors = true ∧
      w'.store.load "out/A.java" =
        .ok (second.unitText .java session.options.versionText dataType) := by
  obtain ⟨s', hemit⟩ : ∃ s', session.emitAll units start.store
      (session.goodDocs start.store paths) = some s' :=
    Option.isSome_iff_exists.mp (by decide +kernel)
  have hstart : Session.start {} = .ok session := rfl
  have hopen : (({} : Options).openCache : StateM World _).run start = (.ok none, start) := rfl
  have hbelow : ∀ path ∈ paths, ¬ start.store.Below path "out" := by decide +kernel
  obtain ⟨g, w', hrun, rfl, hclean⟩ := generate_stops_at_first_bad hstart rfl (by decide) numbered
    collect_start hopen (by decide) reads_start hbelow hemit
  refine ⟨g, w', hrun, ?_, hclean.errors.mpr (by decide +kernel), hclean.published _ _ ?_⟩
  · rw [hclean.outputs, goodDocs_start]
    rfl
  · rw [goodDocs_start]
    rfl

open StoppedRun in
/-- Three ways in which a run does not end as others do. A bag that is too large cannot be made.
Clearing a cache whose directory is the destination removes files from there. A source that is too
long for offsets makes the run fail. -/
theorem Options.generate_beyond_limits :
    (session.goodSources start.store ["d/a.adt"] = ["d/a.adt"] ∧
      (({ maxDiagnostics := 4611686018427387904 } : Options).generate "d/a.adt" "out" :
        StateM World _).run start = (.error (.ofCause .impossible), start) ∧
      (((({ clearCache := true, cacheDir := "out" } : Options).generate "d/a.adt" "out" :
        StateM World _).run start).1.toOption.map (·.1) = some none ∧
      start.store.held [("out" : Text), ("keep.txt" : Text)] = some (.file "k") ∧
      ((({ clearCache := true, cacheDir := "out" } : Options).generate "d/a.adt" "out" :
        StateM World _).run start).2.store.held [("out" : Text), ("keep.txt" : Text)] = none)) ∧
    ∃ g, (({} : Options).generate "a.adt" "out" : StateM World _).run
      (single (List.replicate (2 ^ 32) 97)) =
        (.ok (some (.ofCause .impossible), g), single (List.replicate (2 ^ 32) 97)) := by
  refine ⟨⟨by decide +kernel, rfl, by decide +kernel, by decide +kernel, by decide +kernel⟩,
    run_generate_long ?_⟩
  rw [Source.normalize_fst_of_ascii, List.length_replicate]
  · exact Nat.le_refl _
  · exact List.all_eq_true.mpr fun b hb => by rw [List.eq_of_mem_replicate hb]; rfl
  · exact fun hmem => absurd (List.eq_of_mem_replicate hmem) (by decide)

end AdtCompiler
