import AdtCompiler.Proofs.CacheHistory
import AdtCompiler.Proofs.Framing
import AdtCompiler.Proofs.Packing

/-!
# What a skipped source is worth

A source is skipped if the cache has an entry of its key whose files are intact. The entry was
recorded by a job of the past. If hashing had no collisions, the two jobs have the same content,
back end, version, package and absolute destination. They need not have the same path, which is a
part of the generated text, nor spell the destination alike, which is a part of the recorded paths.
With the same path and spelling, the intact files are those that the source would be compiled to.

## Contents

- `Trusted`: what is assumed about hashing
- `Trusted.sameInput`: jobs with the same key have the same input
- `Generation.held_source_uncached`: compiling anew changes nothing where the units are intact
- `skipped_source_intact`: what a skipped source is worth
- `Twins.second_source_stale`: a source that is skipped without being up to date
-/

namespace AdtCompiler

/-! ## Trust -/

namespace Session

variable {session : Session} {f : FileUnits} {path : Text} {doc : Doc}

/-- What a cache should have of a document. -/
def entryFor (session : Session) (f : FileUnits) (path : Text) (doc : Doc) :
    CacheEntry where
  schema := CacheEntry.currentSchema
  source := path
  backend := session.backend.name
  version := session.options.versionText
  outputs := Generation.someUnlessEmpty (doc.types.map (f.unitPath doc))
  digests := Generation.someUnlessEmpty (doc.types.map fun d =>
    Digest.sha256 (doc.unitText session.backend session.options.versionText d))

/-- What a cache should have of a document is read back from what is written of it. -/
def Decodes (session : Session) (f : FileUnits) (path : Text) (doc : Doc) : Prop :=
  CacheEntry.unpack? (session.entryFor f path doc).pack = some (session.entryFor f path doc)

/-- Entries are decoded if texts and lists are not longer than four bytes can tell. -/
theorem decodes_of_length_lt (hpath : path.length < 2 ^ 32)
    (hbackend : session.backend.name.length < 2 ^ 32)
    (hversion : session.options.versionText.length < 2 ^ 32) (htypes : doc.types.length < 2 ^ 32)
    (hunits : ∀ d ∈ doc.types, (f.unitPath doc d).length < 2 ^ 32) :
    session.Decodes f path doc := by
  have houtputs : (session.entryFor f path doc).outputList = doc.types.map (f.unitPath doc) :=
    Job.getD_someUnlessEmpty _
  have hdigests : (session.entryFor f path doc).digestList = doc.types.map fun d =>
      Digest.sha256 (doc.unitText session.backend session.options.versionText d) :=
    Job.getD_someUnlessEmpty _
  apply CacheEntry.unpack?_pack
  constructor
  · simp only [List.forall_mem_append, List.forall_mem_cons, houtputs, List.forall_mem_map]
    exact ⟨⟨hpath, hbackend, hversion, nofun⟩, hunits⟩
  · simpa [houtputs] using htypes
  · simpa [hdigests] using htypes
  · simp only [hdigests, List.forall_mem_map]
    exact fun d _ => Digest.length_sha256 _

end Session

namespace Job

/-- The texts that are hashed for a job. -/
def hashed (j : Job) : List Text :=
  j.file.content :: Digest.framed j.keyParts ::
    j.doc?.elim [] fun doc => doc.types.map (j.unitText doc)

/-- A job whose texts and lists are not longer than four bytes can tell. -/
structure Short (j : Job) : Prop where
  parts : ∀ part ∈ j.keyParts, part.length < 2 ^ 32
  path : j.path.length < 2 ^ 32
  types : ∀ doc, j.doc? = some doc → doc.types.length < 2 ^ 32
  units : ∀ doc, j.doc? = some doc → ∀ d ∈ doc.types, (j.unitPath doc d).length < 2 ^ 32

/-- The entry of a short job is read back. -/
theorem Short.unpack?_pack {j : Job} (h : j.Short) {doc : Doc} (hdoc : j.doc? = some doc) :
    CacheEntry.unpack? (j.entry doc).pack = some (j.entry doc) := by
  have hparts := h.parts
  simp only [keyParts, Session.keyParts, List.forall_mem_cons] at hparts
  obtain ⟨-, hbackend, hversion, -⟩ := hparts
  exact Session.decodes_of_length_lt h.path hbackend hversion (h.types doc hdoc) (h.units doc hdoc)

/-- Two jobs have the same input: content and all that shapes the generated text or says where it
goes, but for the path of the source and the spelling of the destination. -/
structure SameInput (j j' : Job) : Prop where
  content : j.file.content = j'.file.content
  backend : j.plan.session.backend = j'.plan.session.backend
  version : j.plan.session.options.versionText = j'.plan.session.options.versionText
  destination : j.plan.destination = j'.plan.destination

namespace SameInput

variable {j j' : Job}

/-- The other job has the same document, but for the name of its source. -/
theorem doc?_eq (h : j.SameInput j') (hplan : j.plan.Proper) {doc : Doc}
    (hdoc : j.doc? = some doc) :
    doc.source = j.file.path ∧ j'.doc? = some { doc with source := j'.file.path } := by
  obtain ⟨hparse, hcheck⟩ := doc?_eq_some.mp hdoc
  obtain ⟨hsource, hparse'⟩ := SourceFile.parse_eq_ok_congr h.content hparse
  refine ⟨hsource, doc?_eq_some.mpr ⟨h.backend ▸ hparse', ?_⟩⟩
  -- No rule looks at the name of the source.
  rw [← h.backend]
  rcases hplan.backend_cases with hb | hb <;> rw [hb] at hcheck ⊢ <;> exact hcheck

/-- Destinations of the same spelling give the same paths. -/
theorem unitPath_eq (h : j.SameInput j') (hplan : j.plan.Proper) (hplan' : j'.plan.Proper)
    (hdir : j.plan.units.dir = j'.plan.units.dir) (doc : Doc) (source : Text) (d : DataType) :
    j'.unitPath { doc with source } d = j.unitPath doc d := by
  have hext : j.plan.units.extension = j'.plan.units.extension := by
    rw [hplan.extension_eq, hplan'.extension_eq, h.backend]
  rw [unitPath, unitPath, FileUnits.unitPath, FileUnits.unitPath, FileUnits.pathFor,
    FileUnits.pathFor, hdir, hext]
  rfl

/-- Files that hold the units of one job hold those of the other exactly if these are the same
texts. -/
theorem intact_iff (h : j.SameInput j') (hplan : j.plan.Proper) (hplan' : j'.plan.Proper)
    (hdir : j.plan.units.dir = j'.plan.units.dir) {doc : Doc} {s : Store}
    (hintact : j.Intact doc s) (source : Text) :
    j'.Intact { doc with source } s ↔
      ∀ d ∈ doc.types, j.unitText doc d = j'.unitText { doc with source } d := by
  refine forall₂_congr fun d hd => ?_
  rw [h.unitPath_eq hplan hplan' hdir, hintact d hd, Except.ok.injEq]

end SameInput

end Job

/-- What is assumed about hashing: it has no collision among the texts that were hashed and the
files there are, and no length is lost in a frame. -/
structure Trusted (texts : Set Text) (jobs : List Job) (s : Store) : Prop where
  free : texts.InjOn Digest.sha256
  hashed : ∀ j ∈ jobs, ∀ t ∈ j.hashed, t ∈ texts
  held : ∀ q t, s.held q = some (.file t) → t ∈ texts
  short : ∀ j ∈ jobs, j.Short

namespace Trusted

variable {texts : Set Text} {jobs : List Job} {s : Store} {j j' : Job} {doc : Doc}

/-- Jobs with the same key have the same input. -/
theorem sameInput (ht : Trusted texts jobs s) (hj : j ∈ jobs) (hj' : j' ∈ jobs)
    (hplan : j.plan.Proper) (hplan' : j'.plan.Proper) (hkey : j.key = j'.key) :
    j.SameInput j' := by
  have hparts : j.keyParts = j'.keyParts :=
    Digest.combine_inj ht.free (ht.short j hj).parts (ht.short j' hj').parts
      (ht.hashed j hj _ (by simp [Job.hashed])) (ht.hashed j' hj' _ (by simp [Job.hashed])) hkey
  simp only [Job.keyParts, Session.keyParts, List.cons.injEq, and_true] at hparts
  obtain ⟨hdigest, hname, hversion, hpackage, hdestination⟩ := hparts
  refine ⟨?_, ?_, hversion, hdestination⟩
  · exact ht.free (ht.hashed j hj _ (by simp [Job.hashed]))
      (ht.hashed j' hj' _ (by simp [Job.hashed])) hdigest
  · -- The name and the package tell one back end from another.
    rcases hplan.backend_cases with hb | hb <;> rcases hplan'.backend_cases with hb' | hb' <;>
      rw [hb, hb'] at hname ⊢
    · exact absurd (show ("java" : Text) = "go" from hname) (by decide)
    · exact absurd (show ("go" : Text) = "java" from hname) (by decide)
    · rw [hpackage]

/-- The files of a fresh entry hold the units of the job that recorded it. -/
theorem intact_of_fresh (ht : Trusted texts jobs s) (hj : j ∈ jobs) (hdoc : j.doc? = some doc)
    (hfresh : ∀ x ∈ (j.entry doc).outputList.zip (j.entry doc).digestList,
      ∃ t, s.load x.1 = .ok t ∧ Digest.sha256 t = x.2) :
    j.Intact doc s := by
  intro d hd
  rw [j.zip_entry] at hfresh
  obtain ⟨t, hload, hdigest⟩ := hfresh _ (List.mem_map_of_mem hd)
  obtain ⟨q, -, hheld⟩ := Store.load_eq_ok.mp hload
  have htext : j.unitText doc d ∈ texts := ht.hashed j hj _ (by
    simpa [Job.hashed, hdoc] using .inr (.inr ⟨d, hd, rfl⟩))
  rw [hload, ht.free (ht.held q t hheld) htext hdigest]

end Trusted

/-! ## Skipped sources -/

/-- A plan without its cache. -/
def GenerationPlan.uncached (plan : GenerationPlan) : GenerationPlan := { plan with cache := none }

namespace Generation

variable {g : Generation} {plan : GenerationPlan} {path : Text} {w : World} {j : Job}

/-- A job whose entry was recorded is skipped as long as its units are in their files. -/
theorem isCached_of_intact {c : DiskCache} {key : Text} {doc : Doc} (hcache : plan.cache = some c)
    (hload : w.store.load (c.pathFor key) = .ok (j.entry doc).pack)
    (hunpack : CacheEntry.unpack? (j.entry doc).pack = some (j.entry doc))
    (hintact : j.Intact doc w.store) :
    ((isCached plan path key : StateM World _).run w).1 = true := by
  refine isCached_iff.mpr ⟨c, j.entry doc, _, hcache, hload, hunpack, rfl, ?_, ?_⟩
  · rw [j.outputList_entry, j.digestList_entry, List.length_map, List.length_map]
  · simp only [j.zip_entry, List.forall_mem_map]
    exact fun d hd => ⟨_, hintact d hd, rfl⟩

/-- Work without the cache on a source whose units are in their files changes no file. -/
theorem held_source_uncached (hplan : plan.Proper) (hs : w.store.Numbered)
    (hjob : g.job? plan path w = some j) {doc : Doc} (hdoc : j.doc? = some doc)
    (hintact : j.Intact doc w.store) (p : Place) (t : Text) :
    ((g.source plan.uncached path : StateM World _).run w).2.store.held p =
      some (.file t) ↔ w.store.held p = some (.file t) := by
  have hplan' : plan.uncached.Proper := ⟨hplan.started, hplan.extension_eq⟩
  obtain ⟨result, w', hrun, hrewrites, -⟩ := run_source hplan' hs g path
  -- What may be written is there already.
  have hthere : ∀ q x, (∃ j' ∈ g.job? plan.uncached path w,
      j'.Writes w'.store q x) → w.store.held q = some (.file x) := by
    rintro q x ⟨j', hj', doc', hdoc', hwrites⟩
    obtain ⟨bytes, hbytes, rfl⟩ := Option.map_eq_some_iff.mp hjob
    obtain ⟨bytes', hbytes', rfl⟩ := Option.map_eq_some_iff.mp hj'
    cases hbytes.symm.trans hbytes'
    cases hdoc.symm.trans hdoc'
    rcases hwrites with ⟨d, hd, hplace, rfl⟩ | ⟨c, hc, -⟩
    · obtain ⟨q', hq', hheld⟩ := Store.load_eq_ok.mp (hintact d hd)
      cases (hrewrites.place hq').symm.trans hplace
      exact hheld
    · cases hc
  rw [hrun]
  constructor
  · intro hp
    exact (hrewrites.file p t hp).elim id (hthere p t)
  · intro hp
    obtain ⟨t', ht', rfl | hnew⟩ := hrewrites.stays p t hp
    · exact ht'
    · rw [hthere p t' hnew] at hp
      cases hp
      exact ht'

end Generation

/-! ## Two sources of one content

Two sources have the same content, and the first of them was compiled. -/

namespace Twins

/-- The content of both sources. -/
def content : Text := "A = A\n"

/-- The world with both sources and nothing else. -/
def start : World where
  store :=
    { nodes := [([("a.adt" : Text)], .file 0), ([("b.adt" : Text)], .file 1)]
      contents := [(0, content), (1, content)]
      next := 2 }

/-- Java units go to the directory `out`, and `c` has the cache. -/
def plan : GenerationPlan :=
  ⟨⟨{ cache := true, cacheDir := "c" }, .java⟩, some ⟨"c"⟩, "/out", ⟨"out", ".java"⟩⟩

def run : Generation := { bag := ⟨[], 100⟩ }

def job (path : Text) : Job := ⟨plan, path, (FileSet.loaded {} path content).2⟩

def first : Job := job "a.adt"

def second : Job := job "b.adt"

def dataType : DataType := ⟨"A", [], [⟨"A", []⟩]⟩

def doc : Doc := ⟨"a.adt", [], [], [dataType]⟩

/-- The world after work on the first source. -/
def compiled : World := ((run.source plan "a.adt" : StateM World _).run start).2

theorem proper : plan.Proper := ⟨rfl, rfl⟩

theorem doc?_first : first.doc? = some doc := rfl

theorem node?_start {q : Place} {id : Nat} (h : start.store.node? q = some (.file id)) :
    q = [("a.adt" : Text)] ∧ id = 0 ∨ q = [("b.adt" : Text)] ∧ id = 1 := by
  unfold Store.node? start at h
  dsimp only at h
  split at h
  · cases h
  · simp only [List.lookup_cons, List.lookup_nil] at h
    grind

theorem history_start : History [] start := by
  refine .start (fun q id h => ?_) ?_
  · rcases node?_start h with ⟨-, rfl⟩ | ⟨-, rfl⟩ <;> decide
  · rintro key q x ⟨above, rfl⟩ h
    obtain ⟨id, hnode, -⟩ := Store.held_eq_file.mp h
    rcases node?_start hnode with ⟨hq, -⟩ | ⟨hq, -⟩ <;> simpa using congrArg List.length hq

theorem job?_start : run.job? plan "a.adt" start = some first := rfl

theorem history : History [first] compiled := by
  have hsource := history_start.source proper run "a.adt"
  rw [job?_start] at hsource
  exact hsource

/-- Both sources, the unit and the entry are there. -/
theorem load_compiled : compiled.store.load "a.adt" = .ok content ∧
    compiled.store.load "b.adt" = .ok content ∧
    (compiled.store.load (first.unitPath doc dataType)).toOption.isSome ∧
    (compiled.store.load (DiskCache.pathFor ⟨"c"⟩ first.key)).toOption.isSome := by
  decide +kernel

/-- What there is after the work was there before, or the job wrote it. -/
theorem held_compiled {q : Place} {t : Text} (h : compiled.store.held q = some (.file t)) :
    t = content ∧ (q = [("a.adt" : Text)] ∨ q = [("b.adt" : Text)]) ∨
      first.Writes compiled.store q t := by
  obtain ⟨result, w', hrun, hrewrites, -⟩ :=
    Generation.run_source proper history_start.numbered run "a.adt"
  have hw' : compiled = w' := by rw [compiled, hrun]
  rw [hw'] at h ⊢
  rcases hrewrites.file q t h with hbefore | ⟨j, hj, hwrites⟩
  · obtain ⟨id, hnode, rfl⟩ := Store.held_eq_file.mp hbefore
    rcases node?_start hnode with ⟨hq, rfl⟩ | ⟨hq, rfl⟩
    · exact .inl ⟨rfl, .inl hq⟩
    · exact .inl ⟨rfl, .inr hq⟩
  · rw [job?_start] at hj
    cases hj
    exact .inr hwrites

theorem intact : first.Intact doc compiled.store := by
  intro d hd
  cases List.mem_singleton.mp hd
  obtain ⟨t, hload⟩ := Store.exists_load load_compiled.2.2.1
  obtain ⟨q, hq, hheld⟩ := Store.load_eq_ok.mp hload
  have hreadable := Job.readable_of_doc? doc?_first
  obtain ⟨above, hlast⟩ := FileUnits.place_unitPath proper.extension hreadable hd hq
  have hname : q.getLast? = some ("A.java" : Text) := by rw [hlast, List.getLast?_concat]; rfl
  rcases held_compiled hheld with ⟨-, rfl | rfl⟩ | ⟨doc', hdoc', hwrites⟩
  · exact absurd hname (by decide)
  · exact absurd hname (by decide)
  · cases doc?_first.symm.trans hdoc'
    rcases hwrites with ⟨d, hd, -, rfl⟩ | ⟨c, -, hentry, -⟩
    · cases List.mem_singleton.mp hd
      exact hload
    · exact absurd (c.place_pathFor hentry) (proper.not_entryPlace hreadable hd hq)

theorem load_entry : compiled.store.load (DiskCache.pathFor ⟨"c"⟩ first.key) =
    .ok (first.entry doc).pack := by
  obtain ⟨t, hload⟩ := Store.exists_load load_compiled.2.2.2
  obtain ⟨q, hq, hheld⟩ := Store.load_eq_ok.mp hload
  obtain ⟨j, hj, -, doc', hdoc', rfl⟩ :=
    history.entry_of_held (DiskCache.place_pathFor ⟨"c"⟩ hq) hheld
  cases List.mem_singleton.mp hj
  cases doc?_first.symm.trans hdoc'
  exact hload

theorem short : first.Short := by
  refine ⟨by decide +kernel, by decide, fun doc' hdoc' => ?_, fun doc' hdoc' => ?_⟩ <;>
    cases doc?_first.symm.trans hdoc'
  · decide
  · decide +kernel

/-- A source with the key of the first one is skipped. -/
theorem skipped {path : Text} {j : Job} (hjob : run.job? plan path compiled = some j)
    (hkey : j.key = first.key) :
    ((run.source plan path : StateM World _).run compiled).1.2.skipped ≠ run.skipped := by
  obtain ⟨result, w', hrun, -, hcached⟩ := Generation.run_source proper history.numbered run path
  rw [hrun]
  refine hcached.mpr ⟨j, hjob, ?_⟩
  rw [hkey]
  exact Generation.isCached_of_intact rfl load_entry (short.unpack?_pack doc?_first) intact

theorem job?_compiled : run.job? plan "a.adt" compiled = some first ∧
    run.job? plan "b.adt" compiled = some second := by
  rw [Generation.job?, Generation.job?, load_compiled.1, load_compiled.2.1]
  exact ⟨rfl, rfl⟩

/-- The key of a job says nothing about the path of its source. -/
theorem key_second : second.key = first.key := by
  have hdigest : second.file.digest = first.file.digest := rfl
  exact congrArg (plan.session.cacheKey · plan.destination) hdigest

/-- All texts that are hashed. -/
def texts : List Text :=
  [content, Digest.framed first.keyParts, first.unitText doc dataType, (first.entry doc).pack]

theorem trusted : Trusted { t | t ∈ texts } [first, first] compiled.store where
  free := by
    -- The digests differ in their first bytes.
    have hnodup : (texts.map fun t => (Digest.sha256 t).head?).Nodup := by decide +kernel
    exact fun t ht u hu h => List.inj_on_of_nodup_map hnodup ht hu (congrArg List.head? h)
  hashed := by
    have hmem : ∀ t ∈ first.hashed, t ∈ texts := by
      rw [Job.hashed, doc?_first, List.forall_mem_cons, List.forall_mem_cons]
      refine ⟨.head _, .tail _ (.head _), List.forall_mem_singleton.mpr ?_⟩
      exact .tail _ (.tail _ (.head _))
    simpa using hmem
  held := by
    intro q t h
    rcases held_compiled h with ⟨rfl, -⟩ | ⟨doc', hdoc', hwrites⟩
    · exact .head _
    · cases doc?_first.symm.trans hdoc'
      rcases hwrites with ⟨d, hd, -, rfl⟩ | ⟨c, -, -, rfl⟩
      · cases List.mem_singleton.mp hd
        exact .tail _ (.tail _ (.head _))
      · exact .tail _ (.tail _ (.tail _ (.head _)))
  short := by simpa using short

end Twins

/-- **What a skipped source is worth.** Runs, whatever they are asked for, and edits make
histories. Where a source is skipped after a history, a job of the past had the same input, and the
units of that job are in their files. If both spell the destination alike, these are the files of
the source that was skipped; they hold its units if it has the path of the source of the past, and
with Java units only then. With its units in their files, work on it without the cache would have
changed no file. -/
theorem skipped_source_intact {h : List Job} {w : World} (hw : History h w) :
    (∀ (o : Options) (source destination : Text), ∃ jobs,
      History (h ++ jobs) ((o.generate source destination : StateM World _).run w).2 ∧
        ∀ j ∈ jobs, j.plan.session.options = o ∧ j.plan.units.dir = destination) ∧
    ∀ (g : Generation) (plan : GenerationPlan) (path : Text) (job : Job) (texts : Set Text),
      plan.Proper → g.job? plan path w = some job → Trusted texts (job :: h) w.store →
      ((g.source plan path : StateM World _).run w).1.2.skipped ≠ g.skipped →
      ∃ j ∈ h, j.SameInput job ∧ ∃ doc, j.doc? = some doc ∧ j.Intact doc w.store ∧
        ∃ doc', job.doc? = some doc' ∧
          (j.plan.units.dir = job.plan.units.dir →
            (j.file.path = job.file.path → job.Intact doc' w.store) ∧
            (job.plan.session.backend = .java → doc'.types ≠ [] → job.Intact doc' w.store →
              j.file.path = job.file.path)) ∧
          (job.Intact doc' w.store → ∀ p t,
            ((g.source plan.uncached path : StateM World _).run w).2.store.held p =
              some (.file t) ↔ w.store.held p = some (.file t)) := by
  refine ⟨fun o source destination => MakesHistory.generate o source destination h w hw, ?_⟩
  intro g plan path job texts hplan hjob ht hskip
  obtain ⟨result, w', hrun, -, hcached⟩ := Generation.run_source hplan hw.numbered g path
  rw [hrun] at hskip
  obtain ⟨job', hjob', hcached⟩ := hcached.mp hskip
  cases hjob.symm.trans hjob'
  obtain ⟨c, e, bytes, -, hload, hunpack, -, -, hfresh⟩ := Generation.isCached_iff.mp hcached
  -- The entry that was found was recorded by a job of the past.
  obtain ⟨q, hq, hheld⟩ := Store.load_eq_ok.mp hload
  obtain ⟨j, hj, hkey, doc, hdoc, rfl⟩ := hw.entry_of_held (c.place_pathFor hq) hheld
  have hj' : j ∈ job :: h := List.mem_cons_of_mem job hj
  rw [(ht.short j hj').unpack?_pack hdoc] at hunpack
  cases hunpack
  have hjPlan := hw.proper j hj
  have hjobPlan : job.plan.Proper := Generation.plan_of_job? hjob ▸ hplan
  have hsame := ht.sameInput hj' List.mem_cons_self hjPlan hjobPlan hkey
  have hintact := ht.intact_of_fresh hj' hdoc hfresh
  obtain ⟨hsource, hdoc'⟩ := hsame.doc?_eq hjPlan hdoc
  refine ⟨j, hj, hsame, doc, hdoc, hintact, _, hdoc', fun hdir => ?_,
    Generation.held_source_uncached hplan hw.numbered hjob hdoc'⟩
  rw [hsame.intact_iff hjPlan hjobPlan hdir hintact]
  refine ⟨fun hpath d _ => ?_, fun hjava hne htexts => ?_⟩
  · rw [Job.unitText, Job.unitText, hsame.backend, hsame.version, ← hpath, ← hsource]
  · obtain ⟨d, hd⟩ := List.exists_mem_of_ne_nil _ hne
    have htext := htexts d hd
    rw [Job.unitText, Job.unitText, hsame.backend, hsame.version, hjava] at htext
    exact hsource.symm.trans (Doc.source_eq_of_unitText htext)

/-- The first source is skipped when it is compiled again, and that is as good as compiling it. -/
theorem Twins.first_source_intact :
    ((run.source plan "a.adt" : StateM World _).run compiled).1.2.skipped ≠ run.skipped ∧
    ∀ p t, ((run.source plan.uncached "a.adt" : StateM World _).run
      compiled).2.store.held p = some (.file t) ↔ compiled.store.held p = some (.file t) := by
  have hskip := skipped job?_compiled.1 rfl
  obtain ⟨j, hj, -, -, -, -, doc', -, hintact, hkept⟩ := (skipped_source_intact history).2 run plan
    "a.adt" first _ proper job?_compiled.1 trusted hskip
  cases List.mem_singleton.mp hj
  exact ⟨hskip, hkept ((hintact rfl).1 rfl)⟩

/-- The second source is skipped too, although work on it would have changed the unit. -/
theorem Twins.second_source_stale : History [first] compiled ∧
    ((run.source plan "b.adt" : StateM World _).run compiled).1.2.skipped ≠ run.skipped ∧
    ((run.source plan.uncached "b.adt" : StateM World _).run
      compiled).2.store.load "out/A.java" ≠ compiled.store.load "out/A.java" :=
  ⟨history, skipped job?_compiled.2 key_second, by decide +kernel⟩

end AdtCompiler
