import AdtCompiler.Proofs.CacheOpening
import AdtCompiler.Proofs.RecordedJob

/-!
# A warm cache

A run from an empty cache leaves a warm one: a second run on the same files skips every source and
writes nothing. While the first run goes on, the jobs that were done must stay on record when later
sources are worked on. They do, because no two data types of the sources have the same name, because
the entry of a job has the only key of its kind, and because a source whose key is on record already
is skipped, such as one with the content of another source. The second run computes the same keys,
because the sources are still there with their contents, and because keys depend on nothing else
that may have changed.

## Contents

- `Warm`: what a cache has while a run goes on, `Warm.source`: what the work on one source adds to
  it, and `Warm.sources`: the same for all of them
- `Options.ColdStart`: what is assumed when a run starts from an empty cache
- `Options.warm_of_generate`: what such a run leaves
- `Options.run_generate_warm`: what a run on a warm cache does
- `Options.generate_again_skips_all`: both runs
-/

namespace AdtCompiler

open Store (Rewrites AgreeBelow Apart)

/-! ## Keys of sources -/

/-- The key of a source with a content. -/
def GenerationPlan.keyOf (plan : GenerationPlan) (bytes : Text) : Text :=
  plan.session.cacheKey (Digest.sha256 (Source.normalize bytes).1) plan.destination

theorem Job.key_loaded {files : FileSet} (h : files.size < 2 ^ 32) (plan : GenerationPlan)
    (path bytes : Text) :
    (Job.mk plan path (files.loaded path bytes).2).key = plan.keyOf bytes := by
  rw [Job.key, SourceFile.digest, (FileSet.loaded_snd h path bytes).2, GenerationPlan.keyOf]

/-! ## The jobs of a run -/

/-- What a cache has while a run goes on that found it empty: the jobs that were done are on record,
and there are no other entries. -/
structure Warm (plan : GenerationPlan) (c : DiskCache) (jobs : List Job) (s : Store) : Prop where
  plan_eq : ∀ j ∈ jobs, j.plan = plan
  recorded : ∀ j ∈ jobs, ∃ doc, j.Recorded c doc s
  only : ∀ key t, s.held (s.target (c.pathFor key)) = some (.file t) → ∃ j ∈ jobs, j.key = key

namespace Warm

variable {plan : GenerationPlan} {c : DiskCache} {jobs : List Job} {s s' : Store} {j : Job}
  {doc : Doc} {w w' : World} {path key bytes : Text} {g g' : Generation}

/-- An empty cache is one without jobs. -/
theorem of_noFileBelow (h : s.NoFileBelow (s.target c.dir)) : Warm plan c [] s where
  plan_eq := nofun
  recorded := nofun
  only key t hheld := by
    have hbelow : s.target c.dir <+: s.target (c.pathFor key) := by
      rw [c.target_pathFor key s]
      exact List.prefix_append _ _
    exact absurd hheld (h _ t hbelow)

/-- A source is skipped exactly if a job of the run had its key. -/
theorem isCached_iff (h : Warm plan c jobs w.store) (hcache : plan.cache = some c) :
    ((Generation.isCached plan path key : StateM World _).run w).1 = true ↔
      ∃ j ∈ jobs, j.key = key := by
  constructor
  · intro hcached
    obtain ⟨c', e, bytes, hc', hload, -⟩ := Generation.isCached_iff.mp hcached
    cases hcache.symm.trans hc'
    obtain ⟨q, hq, hheld⟩ := Store.load_eq_ok.mp hload
    rw [Store.eq_target_of_place hq] at hheld
    exact h.only key bytes hheld
  · rintro ⟨j, hj, rfl⟩
    obtain ⟨doc, hrecorded⟩ := h.recorded j hj
    exact hrecorded.isCached hcache path

/-- A job with a new key, whose units have new names, goes on record beside the others. -/
theorem add (h : Warm plan c jobs w.store) (hplan : plan.Proper) (hj : j.plan = plan)
    (hkey : ∀ j' ∈ jobs, j'.key ≠ j.key)
    (hnames : ∀ j' ∈ jobs, ∀ doc', j'.doc? = some doc' → doc.unitNames.Disjoint doc'.unitNames)
    (hleaves : Generation.Leaves j c doc w w') (hrecorded : j.Recorded c doc w'.store) :
    Warm plan c (jobs ++ [j]) w'.store := by
  have hproper : j.plan.Proper := hj ▸ hplan
  have hdir := hleaves.rewrites.workingDir
  refine ⟨?_, ?_, ?_⟩
  · exact List.forall_mem_append.mpr ⟨h.plan_eq, List.forall_mem_singleton.mpr hj⟩
  · refine List.forall_mem_append.mpr
      ⟨fun j' hj' => ?_, List.forall_mem_singleton.mpr ⟨doc, hrecorded⟩⟩
    -- the job writes neither the entry of an earlier job, which has another key, nor its units
    obtain ⟨doc', hrecorded'⟩ := h.recorded j' hj'
    refine ⟨doc', hrecorded'.of_rewrites hleaves.rewrites (fun q hq x => ?_) fun d hd q hq x => ?_⟩
    · exact Job.not_writes_entry hproper (hkey j' hj').symm (c.place_pathFor hq)
    · have hplan' : j'.plan = plan := h.plan_eq j' hj'
      refine Job.not_writes_unit (hplan' ▸ hplan) (hj.trans hplan'.symm) hrecorded'.doc?
        (fun other hother => ?_) hd hdir hq
      cases hleaves.doc?.symm.trans hother
      exact hnames j' hj' doc' hrecorded'.doc?
  · intro key t hheld
    by_cases hnew : j.key = key
    · exact ⟨j, by simp, hnew⟩
    · have hentry : EntryPlace key (w'.store.target (c.pathFor key)) :=
        ⟨_, c.target_pathFor key w'.store⟩
      have hbefore := (hleaves.rewrites.file _ t hheld).resolve_right
        (Job.not_writes_entry hproper hnew hentry)
      rw [Store.target_congr hdir] at hbefore
      obtain ⟨j', hj', hkey'⟩ := h.only key t hbefore
      exact ⟨j', List.mem_append_left _ hj', hkey'⟩

/-- Work on a source that is done leaves its job on record, or there was a job with its key. -/
theorem source (h : Warm plan c jobs w.store) (hplan : plan.Proper) (hcache : plan.cache = some c)
    (hs : w.store.Numbered)
    (hnew : ∀ bytes doc, w.store.load path = .ok bytes →
      (Job.mk plan path (g.files.loaded path bytes).2).doc? = some doc →
        plan.session.Decodes plan.units path doc ∧ ∀ j ∈ jobs, ∀ doc', j.doc? = some doc' →
          doc.unitNames.Disjoint doc'.unitNames)
    (hrun : (g.source plan path : StateM World _).run w = ((.done, g'), w')) (hquiet : w'.Quiet) :
    ∃ bytes more, w.store.load path = .ok bytes ∧
      List.Sublist more [⟨plan, path, (g.files.loaded path bytes).2⟩] ∧
      Warm plan c (jobs ++ more) w'.store ∧
      (∃ j ∈ jobs ++ more, j.key = (Job.mk plan path (g.files.loaded path bytes).2).key) ∧
      g'.bag = g.bag ∧ g'.files.size = g.files.size + 1 := by
  rcases Generation.source_cases hplan hcache hs g path with ⟨e, g₁, w₁, hends⟩ |
    ⟨g₁, w₁, hends, -⟩ | ⟨bytes, g₁, w₁, hbytes, hends, hbag, hsize, hcases⟩ <;>
      cases hrun.symm.trans hends
  rcases hcases with ⟨hcached, hstore⟩ | ⟨hcached, doc, hleaves⟩
  · -- a source like one before: nothing was done
    have hkey := (h.isCached_iff hcache).mp hcached
    refine ⟨bytes, [], hbytes, List.nil_sublist _, ?_, ?_, hbag, hsize⟩
    · rw [List.append_nil, hstore]
      exact h
    · rwa [List.append_nil]
  · obtain ⟨hdecodes, hnames⟩ := hnew bytes doc hbytes hleaves.doc?
    -- with a job of the same key on record, nothing would have been done
    have hkey : ∀ j' ∈ jobs, j'.key ≠ (Job.mk plan path (g.files.loaded path bytes).2).key := by
      intro j' hj' heq
      rw [(h.isCached_iff hcache).mpr ⟨j', hj', heq⟩] at hcached
      cases hcached
    refine ⟨bytes, _, hbytes, List.Sublist.refl _, ?_, ⟨_, by simp, rfl⟩, hbag, hsize⟩
    exact h.add hplan rfl hkey hnames hleaves
      ⟨hleaves.doc?, hleaves.entry hquiet, hdecodes, hleaves.intact⟩

end Warm

/-! ## All sources of a run -/

/-- The places where a run may write: in the directory for units and in that of its cache. -/
def GenerationPlan.Own (plan : GenerationPlan) (s : Store) (q : Place) : Prop :=
  s.target plan.units.dir <+: q ∨ ∃ c, plan.cache = some c ∧ s.target c.dir <+: q

theorem GenerationPlan.own_congr {s s' : Store} (h : s'.workingDir = s.workingDir)
    (plan : GenerationPlan) (q : Place) : plan.Own s' q ↔ plan.Own s q := by
  simp only [Own, Store.target_congr h]

theorem Job.own_of_writes {j : Job} {s : Store} {q : Place} {x : Text} (hplan : j.plan.Proper)
    (h : j.Writes s q x) : j.plan.Own s q := by
  obtain ⟨doc, hdoc, ⟨d, hd, hplace, -⟩ | ⟨c, hcache, hplace, -⟩⟩ := h
  · left
    rw [Store.eq_target_of_place hplace]
    exact (FileUnits.store_below_pathFor hplan.isDotLetters
      (FileUnits.isUnitName_qualifiedName (readable_of_doc? hdoc) hd) s).1
  · right
    refine ⟨c, hcache, ?_⟩
    rw [Store.eq_target_of_place hplace, c.target_pathFor j.key s]
    exact List.prefix_append _ _

namespace Generation

variable {plan : GenerationPlan} {w : World}

/-- A run writes in its own places. -/
theorem rewrites_source (hplan : plan.Proper) (hs : w.store.Numbered) (g : Generation)
    (path : Text) : Rewrites (fun q _ => plan.Own w.store q) w.store
      ((g.source plan path : StateM World _).run w).2.store := by
  obtain ⟨result, w', hrun, hrewrites, -⟩ := run_source hplan hs g path
  rw [hrun]
  refine hrewrites.mono fun q x hwrites => ?_
  obtain ⟨j, hj, hwrites⟩ := hwrites
  have hj : j.plan = plan := plan_of_job? hj
  rw [← GenerationPlan.own_congr hrewrites.workingDir, ← hj]
  exact Job.own_of_writes (hj ▸ hplan) hwrites

theorem rewrites_sources (hplan : plan.Proper) (hs : w.store.Numbered) (g : Generation)
    (paths : List Text) : Rewrites (fun q _ => plan.Own w.store q) w.store
      ((sources plan g paths : StateM World _).run w).2.store := by
  induction paths generalizing g w with
  | nil => exact .refl hs
  | cons path rest ih =>
    have hfirst := rewrites_source hplan hs g path
    obtain ⟨⟨⟨ending, g₁⟩, w₁⟩, hrun⟩ : ∃ r, (g.source plan path : StateM World _).run w = r :=
      ⟨_, rfl⟩
    rw [hrun] at hfirst
    rw [sources, run_bind hrun]
    cases ending with
    | done =>
      refine hfirst.trans ((ih hfirst.numbered g₁).mono fun q _ hq => ?_)
      exact (GenerationPlan.own_congr hfirst.workingDir plan q).mp hq
    | rejected => exact hfirst
    | failed e => exact hfirst

/-- A file that is where a run does not write can be read as before. -/
theorem load_sources {path bytes : Text} (hplan : plan.Proper) (hs : w.store.Numbered)
    (g : Generation) (paths : List Text) (hload : w.store.load path = .ok bytes)
    (hread : ¬ plan.Own w.store (w.store.target path)) :
    ((sources plan g paths : StateM World _).run w).2.store.load path = .ok bytes := by
  refine (rewrites_sources hplan hs g paths).load hload fun q hq _ => ?_
  rw [Store.eq_target_of_place hq]
  exact hread

end Generation

namespace Warm

variable {plan : GenerationPlan} {c : DiskCache} {jobs : List Job} {w w' : World}
  {g g' : Generation} {paths : List Text}

/-- Documents whose names are all different have no name in common. -/
theorem disjoint_unitNames {docs docs' : List Doc} {doc doc' : Doc}
    (h : ((docs ++ doc :: docs').flatMap Doc.unitNames).Nodup) (hdoc' : doc' ∈ docs) :
    doc.unitNames.Disjoint doc'.unitNames := by
  rw [List.flatMap_append, List.flatMap_cons] at h
  intro name hname hname'
  have hdisjoint := List.disjoint_of_nodup_append h
  exact hdisjoint (List.mem_flatMap.mpr ⟨doc', hdoc', hname'⟩) (List.mem_append_left _ hname)

/-- The document of a source that is still to come may become the document of a job. -/
theorem filterMap_sublist_cons {docs : Text → Option Doc} {path : Text} {rest : List Text} {j : Job}
    {new : List Job} (hnew : List.Sublist new [j])
    (hdoc : ∀ doc, j.doc? = some doc → docs path = some doc) :
    List.Sublist (new.filterMap Job.doc? ++ rest.filterMap docs)
      ((path :: rest).filterMap docs) := by
  have hdocs := hnew.filterMap Job.doc?
  cases hj : j.doc? with
  | none =>
    rw [List.filterMap_cons_none hj, List.filterMap_nil, List.sublist_nil] at hdocs
    rw [hdocs, List.nil_append]
    exact (List.sublist_cons_self path rest).filterMap docs
  | some doc =>
    rw [List.filterMap_cons_some hj, List.filterMap_nil] at hdocs
    rw [List.filterMap_cons_some (hdoc doc hj)]
    exact hdocs.append (List.Sublist.refl _)

/-- Work on sources that ends without a failure, an error or a warning puts a job with the key of
each source on record. The sources are where the run does not write, and their documents were known
before, from a store in which they are the same. -/
theorem sources {s₀ : Store} (h : Warm plan c jobs w.store) (hplan : plan.Proper)
    (hcache : plan.cache = some c) (hs : w.store.Numbered)
    (hsize : g.files.size + paths.length ≤ 2 ^ 32) (hroom : g.bag.size < g.bag.limit)
    (hreads : ∀ path ∈ paths, ¬ plan.Own w.store (w.store.target path))
    (hrun : (Generation.sources plan g paths : StateM World _).run w = ((none, g'), w'))
    (herrors : g'.bag.hasErrors = false) (hquiet : w'.Quiet)
    (hdocs : ∀ path ∈ paths, ∀ doc, plan.session.docAt w'.store path = some doc →
      plan.session.docAt s₀ path = some doc)
    (hdecodes : ∀ path ∈ paths, ∀ doc, plan.session.docAt s₀ path = some doc →
      plan.session.Decodes plan.units path doc)
    (hnames : ((jobs.filterMap Job.doc? ++ paths.filterMap (plan.session.docAt s₀)).flatMap
      Doc.unitNames).Nodup) :
    ∃ more, Warm plan c (jobs ++ more) w'.store ∧ ∀ path ∈ paths, ∃ bytes,
      w'.store.load path = .ok bytes ∧ ∃ j ∈ jobs ++ more, j.key = plan.keyOf bytes := by
  -- what is known of the documents is about the end of the run and a fixed store, so it stays true
  -- from one source to the next
  induction paths generalizing g w jobs with
  | nil =>
    cases hrun
    exact ⟨[], by rwa [List.append_nil], nofun⟩
  | cons path rest ih =>
    rw [List.length_cons] at hsize
    obtain ⟨hread, hreads⟩ := List.forall_mem_cons.mp hreads
    obtain ⟨hdoc, hdocs⟩ := List.forall_mem_cons.mp hdocs
    obtain ⟨hdecode, hdecodes⟩ := List.forall_mem_cons.mp hdecodes
    -- in the end the source is as it was loaded, so the document of its job is known
    have hstays : ∀ bytes, w.store.load path = .ok bytes → w'.store.load path = .ok bytes := by
      intro bytes hbytes
      have hload := Generation.load_sources hplan hs g (path :: rest) hbytes hread
      rwa [hrun] at hload
    have hjob : ∀ bytes doc, w.store.load path = .ok bytes →
        (Job.mk plan path (g.files.loaded path bytes).2).doc? = some doc →
          plan.session.docAt s₀ path = some doc := by
      intro bytes doc hbytes hj
      apply hdoc
      rw [Session.docAt_of_load (hstays bytes hbytes), ← hj]
      exact (Session.doc?_loaded (by omega) path bytes).symm
    have hfirst := Generation.rewrites_source hplan hs g path
    obtain ⟨⟨⟨ending, g₁⟩, w₁⟩, hsource⟩ : ∃ r, (g.source plan path : StateM World _).run w = r :=
      ⟨_, rfl⟩
    rw [hsource] at hfirst
    rw [Generation.sources, run_bind hsource] at hrun
    cases ending with
    | failed e => cases hrun
    | rejected =>
      cases hrun
      rw [Generation.hasErrors_of_rejected hplan hcache hs hroom hsource] at herrors
      cases herrors
    | done =>
      have hquiet₁ := (Tame.sources plan g₁ rest).quiet hrun hquiet
      have hnew : ∀ bytes doc, w.store.load path = .ok bytes →
          (Job.mk plan path (g.files.loaded path bytes).2).doc? = some doc →
            plan.session.Decodes plan.units path doc ∧ ∀ j ∈ jobs, ∀ doc', j.doc? = some doc' →
              doc.unitNames.Disjoint doc'.unitNames := by
        intro bytes doc hbytes hj
        have hat := hjob bytes doc hbytes hj
        rw [List.filterMap_cons_some hat] at hnames
        refine ⟨hdecode doc hat, fun j' hj' doc' hdoc' => ?_⟩
        exact disjoint_unitNames hnames (List.mem_filterMap.mpr ⟨j', hj', hdoc'⟩)
      obtain ⟨bytes, new, hbytes, hsub, hwarm, ⟨j, hj, hkey⟩, hbag, hfiles⟩ :=
        h.source hplan hcache hs hnew hsource hquiet₁
      have hnames' : (((jobs ++ new).filterMap Job.doc? ++
          rest.filterMap (plan.session.docAt s₀)).flatMap Doc.unitNames).Nodup := by
        rw [List.filterMap_append, List.append_assoc]
        refine hnames.sublist (List.Sublist.flatMap ?_ _)
        exact (List.append_sublist_append_left _).mpr
          (filterMap_sublist_cons hsub fun doc => hjob bytes doc hbytes)
      have hreads' : ∀ path ∈ rest, ¬ plan.Own w₁.store (w₁.store.target path) := by
        intro path hpath
        rw [GenerationPlan.own_congr hfirst.workingDir, Store.target_congr hfirst.workingDir]
        exact hreads path hpath
      obtain ⟨more, hmore, hkeys⟩ := ih hwarm hfirst.numbered (by omega) (hbag ▸ hroom) hreads'
        hrun hdocs hdecodes hnames'
      rw [Job.key_loaded (by omega)] at hkey
      rw [List.append_assoc] at hmore hkeys
      refine ⟨new ++ more, hmore, List.forall_mem_cons.mpr ⟨?_, hkeys⟩⟩
      refine ⟨bytes, hstays bytes hbytes, j, ?_, hkey⟩
      rw [← List.append_assoc]
      exact List.mem_append_left more hj

end Warm

/-! ## A run on a warm cache -/

namespace Generation

variable {plan : GenerationPlan} {c : DiskCache} {w : World} {g : Generation} {paths : List Text}

/-- Sources whose keys are on record are skipped, one after another, and nothing is written. -/
theorem run_sources_skipped (hcache : plan.cache = some c)
    (hsize : g.files.size + paths.length ≤ 2 ^ 32)
    (hkeys : ∀ path ∈ paths, ∃ bytes, w.store.load path = .ok bytes ∧
      ∃ (j : Job) (doc : Doc), j.key = plan.keyOf bytes ∧ j.Recorded c doc w.store) :
    ∃ g' w', (sources plan g paths : StateM World _).run w = ((none, g'), w') ∧
      w'.store = w.store ∧ g'.skipped = g.skipped ++ paths ∧ g'.outputs = g.outputs ∧
      g'.bag = g.bag := by
  induction paths generalizing g w with
  | nil => exact ⟨g, w, rfl, rfl, (List.append_nil _).symm, rfl, rfl⟩
  | cons path rest ih =>
    rw [List.length_cons] at hsize
    obtain ⟨⟨bytes, hbytes, j, doc, hkey, hrecorded⟩, hkeys⟩ := List.forall_mem_cons.mp hkeys
    have hfiles : g.files.size < 2 ^ 32 := by omega
    rw [← Job.key_loaded hfiles plan path bytes] at hkey
    obtain ⟨⟨cached, w₁⟩, hcached⟩ : ∃ r,
        (isCached plan path (Job.mk plan path (g.files.loaded path bytes).2).key :
          StateM World _).run w = r := ⟨_, rfl⟩
    have hstore := keepsStore_isCached plan path
      (Job.mk plan path (g.files.loaded path bytes).2).key w
    have htrue := hrecorded.isCached hcache path
    rw [hkey, hcached] at htrue
    rw [hcached] at hstore
    -- the cache knows the key, whichever source it was recorded for
    cases htrue
    obtain ⟨timer, w₂, hsource, hsame⟩ := run_source_skipped hbytes hcached
    have hstore₂ : w₂.store = w.store := hsame.trans hstore
    have hsize₁ : (g.files.loaded path bytes).1.size + rest.length ≤ 2 ^ 32 := by
      rw [FileSet.size_loaded]
      omega
    obtain ⟨g', w', hrun, hstore', hskipped, houtputs, hbag⟩ := ih (w := w₂) (g := { g with
      timer, files := (g.files.loaded path bytes).1, skipped := g.skipped ++ [path] }) hsize₁
      (hstore₂ ▸ hkeys)
    refine ⟨g', w', (run_bind hsource _).trans hrun, hstore'.trans hstore₂, ?_, houtputs, hbag⟩
    rw [hskipped, List.append_assoc]
    rfl

end Generation

/-! ## Parts of a run -/

/-- An absolute path depends on the working directory alone. -/
theorem absolutePath_congr {w w' : World} (h : w'.store.workingDir = w.store.workingDir)
    (path : Text) : ((absolutePath path : StateM World _).run w').1 =
      ((absolutePath path : StateM World _).run w).1 := by
  unfold absolutePath
  split
  case isTrue => rfl
  case isFalse =>
    show Path.join [Store.pathOf w'.store.workingDir, path] =
      Path.join [Store.pathOf w.store.workingDir, path]
    rw [h]

namespace Session

/-- Where a document can be read in one of two stores that agree, it is that of the other. -/
theorem docAt_congr {session : Session} {top : Place} {s s' : Store} {path bytes : Text}
    (h : AgreeBelow top s s') (htop : top <+: s.target path) (hload : s.load path = .ok bytes)
    (hdoc : session.docAt s' path ≠ none) : session.docAt s' path = session.docAt s path := by
  cases hload' : s'.load path with
  | error e =>
    rw [docAt, hload'] at hdoc
    exact absurd rfl hdoc
  | ok bytes' => rw [docAt_of_load hload, docAt_of_load hload', h.load_eq htop hload hload']

end Session

/-- The same world with someone who listens to the log from now on. -/
def World.listening (w : World) : World :=
  { w with logMode := some ⟨true, false⟩, logged := [] }

namespace Options

variable {o : Options} {session : Session} {source destination : Text} {w w' : World}
  {paths : List Text} {g : Generation}

/-- The plan of a run with a cache in a directory. -/
def planFor (session : Session) (destination dir : Text) (w : World) : GenerationPlan where
  session
  cache := some ⟨dir⟩
  destination := ((absolutePath destination : StateM World _).run w).1
  units := ⟨destination, session.backend.extension⟩

/-! ## The first run and the second -/

/-- What is assumed when a run starts from an empty cache. -/
structure ColdStart (o : Options) (session : Session) (source destination dir : Text)
    (paths : List Text) (w : World) : Prop where
  /-- The options ask for a cache in a directory. -/
  started : Session.start o = .ok session
  cache : o.cache = true
  directory : o.cacheDirIn w = some dir
  /-- Files and directories are as a file system has them. -/
  numbered : w.store.Numbered
  closed : w.store.Closed
  tidy : w.store.Tidy
  /-- The sources are apart from the directory for units and from that of the cache. -/
  units_apart : Apart (w.store.target source) (w.store.target destination)
  cache_apart : Apart (w.store.target source) (w.store.target dir)
  /-- There is no file in the cache. -/
  empty : w.store.NoFileBelow (w.store.target dir)
  /-- The sources are found and can be read, and there is a number for each. -/
  collected : ((collectSources source o.sourceExtension : StateM World _).run w).1 = .ok paths
  readable : ∀ path ∈ paths, ∃ bytes, w.store.load path = .ok bytes
  count : paths.length ≤ 2 ^ 32
  /-- No two data types of the sources have the same qualified name. -/
  distinct : ((paths.filterMap (session.docAt w.store)).flatMap Doc.unitNames).Nodup
  /-- What the cache should have of the sources can be decoded. -/
  decodes : ∀ path ∈ paths, ∀ doc, session.docAt w.store path = some doc →
    session.Decodes ⟨destination, session.backend.extension⟩ path doc

variable {dir : Text}

/-- Nobody needs to listen to the log. -/
theorem ColdStart.listening (h : o.ColdStart session source destination dir paths w) :
    o.ColdStart session source destination dir paths w.listening where
  started := h.started
  cache := h.cache
  directory := by
    have henvironment : w.listening.environment = w.environment := rfl
    rw [cacheDirIn_congr henvironment, h.directory]
  numbered := h.numbered
  closed := h.closed
  tidy := h.tidy
  units_apart := h.units_apart
  cache_apart := h.cache_apart
  empty := h.empty
  collected := by
    rw [((Tame.collectSources source o.sourceExtension).same w.listening w rfl rfl).1, h.collected]
  readable := h.readable
  count := h.count
  distinct := h.distinct
  decodes := h.decodes

/-- After a quiet run from an empty cache the sources are as they were, and the jobs of all of them
are on record. -/
theorem warm_of_generate (h : o.ColdStart session source destination dir paths w)
    (hrun : (o.generate source destination : StateM World _).run w = (.ok (none, g), w'))
    (herrors : g.bag.hasErrors = false) (hquiet : w'.Quiet) :
    AgreeBelow (w.store.target source) w.store w'.store ∧ w'.store.Numbered ∧
      ∃ jobs, Warm (planFor session destination dir w) ⟨dir⟩ jobs w'.store ∧
        ∀ path ∈ paths, ∃ bytes, w'.store.load path = .ok bytes ∧
          ∃ j ∈ jobs, j.key = (planFor session destination dir w).keyOf bytes := by
  obtain ⟨bag, cache, w₁, hbag, hopen, hsources⟩ :=
    exists_sources_of_generate h.started h.collected hrun
  have htop : w.store.node? (w.store.target source) ≠ none := by
    rcases collectSources_eq_ok h.collected with ⟨⟨t, hheld⟩, -⟩ | ⟨hnode, -⟩
    · obtain ⟨id, hnode, -⟩ := Store.held_eq_file.mp hheld
      rw [hnode]
      exact Option.some_ne_none _
    · rw [hnode]
      exact Option.some_ne_none _
  obtain ⟨rfl, hagree₁, hnone⟩ := run_openCache h.cache h.directory h.numbered h.closed htop
    h.cache_apart h.empty hopen
  have hs₁ := (AddsNoEntry.openCache o w h.numbered).numbered
  rw [hopen] at hs₁
  have htarget (path : Text) := Store.target_congr hagree₁.workingDir path
  rw [absolutePath_congr hagree₁.workingDir] at hsources
  have hplan : (planFor session destination dir w).Proper :=
    ⟨(MakesHistory.options_of_start h.started).symm ▸ h.started, rfl⟩
  -- what the run writes is apart from the sources
  have hown : ∀ q, w.store.target source <+: q →
      ¬ (planFor session destination dir w).Own w₁.store q := by
    rintro q hq (hbelow | ⟨c, hc, hbelow⟩)
    · rw [htarget] at hbelow
      exact h.units_apart.not_prefix hq hbelow
    · cases hc
      rw [htarget] at hbelow
      exact h.cache_apart.not_prefix hq hbelow
  have hall := Generation.rewrites_sources hplan hs₁ (.collected bag paths.length) paths
  rw [show (Generation.sources (planFor session destination dir w) _ paths :
    StateM World _).run w₁ = _ from hsources] at hall
  have hagree : AgreeBelow (w.store.target source) w.store w'.store :=
    hagree₁.trans (.of_rewrites hall fun q hq _ => hown q hq)
  refine ⟨hagree, hall.numbered, ?_⟩
  have hbelow : ∀ path ∈ paths, w.store.target source <+: w.store.target path := fun path hpath =>
    prefix_target_of_mem_collectSources h.tidy h.collected hpath
  have hdocs : ∀ path ∈ paths, ∀ doc, session.docAt w'.store path = some doc →
      session.docAt w.store path = some doc := by
    intro path hpath doc hdoc
    obtain ⟨bytes, hload⟩ := h.readable path hpath
    rw [← hdoc, Session.docAt_congr hagree (hbelow path hpath) hload]
    rw [hdoc]
    exact Option.some_ne_none doc
  have hwarm : Warm (planFor session destination dir w) ⟨dir⟩ [] w₁.store := by
    apply Warm.of_noFileBelow
    rw [htarget]
    exact hnone
  obtain ⟨hitems, hlimit⟩ := Session.newBag_eq_ok hbag
  refine hwarm.sources hplan rfl hs₁ (by simpa [Generation.collected, FileSet.size] using h.count)
    (by simpa [Generation.collected, Bag.size, hitems] using hlimit) ?_ hsources herrors hquiet
    hdocs h.decodes h.distinct
  intro path hpath
  rw [htarget]
  exact hown _ (hbelow path hpath)

/-- A run that finds the jobs of all its sources on record skips all of them. -/
theorem run_generate_warm {bag : Bag} (hstart : Session.start o = .ok session)
    (hcache : o.cache = true) (hclear : o.clearCache = false)
    (hdir : o.cacheDirIn w = some dir) (hs : w.store.Numbered) (hbag : session.newBag = .ok bag)
    (hcollect : ((collectSources source o.sourceExtension : StateM World _).run w).1 = .ok paths)
    (hcount : paths.length ≤ 2 ^ 32)
    (hopen : ∃ cache, ((o.openCache : StateM World _).run w).1 = .ok cache)
    (hkeys : ∀ path ∈ paths, ∃ bytes, w.store.load path = .ok bytes ∧ ∃ (j : Job) (doc : Doc),
      j.key = (planFor session destination dir w).keyOf bytes ∧ j.Recorded ⟨dir⟩ doc w.store) :
    ∃ g w', (o.generate source destination : StateM World _).run w = (.ok (none, g), w') ∧
      g.skipped = paths ∧ g.outputs = [] ∧ g.bag = bag ∧
      Rewrites (fun _ _ => False) w.store w'.store := by
  obtain ⟨cache, hcache'⟩ := hopen
  obtain ⟨⟨opened, w₁⟩, hopen⟩ : ∃ r, (o.openCache : StateM World _).run w = r := ⟨_, rfl⟩
  rw [hopen] at hcache'
  cases hcache'
  obtain ⟨rfl, hrewrites⟩ := run_openCache_kept hclear hcache hdir hs hopen
  obtain rfl := MakesHistory.options_of_start hstart
  have hgenerate := Session.run_generate hcollect hopen bag destination
  rw [absolutePath_congr hrewrites.workingDir] at hgenerate
  -- opening the cache disturbs neither the sources nor the record
  have hkeys₁ : ∀ path ∈ paths, ∃ bytes, w₁.store.load path = .ok bytes ∧
      ∃ (j : Job) (doc : Doc), j.key = (planFor session destination dir w).keyOf bytes ∧
        j.Recorded ⟨dir⟩ doc w₁.store := by
    intro path hpath
    obtain ⟨bytes, hload, j, doc, hkey, hrecorded⟩ := hkeys path hpath
    refine ⟨bytes, hrewrites.load hload fun _ _ _ => not_false, j, doc, hkey, ?_⟩
    exact hrecorded.of_rewrites hrewrites (fun _ _ _ => not_false) fun _ _ _ _ _ => not_false
  obtain ⟨g, w', hsources, hstore, hskipped, houtputs, hbag'⟩ :=
    Generation.run_sources_skipped (g := .collected bag paths.length) (c := ⟨dir⟩) rfl
      (by simpa [Generation.collected, FileSet.size] using hcount) hkeys₁
  refine ⟨g, w', ?_, hskipped, houtputs, hbag', hstore ▸ hrewrites⟩
  rw [generate, hstart]
  dsimp only
  rw [hbag]
  exact run_bind (hgenerate.trans hsources) _

/-! The second run differs from the first one in that it keeps the cache. -/

/-- The same options, but the cache is not cleared. -/
def keepingCache (o : Options) : Options := { o with clearCache := false }

theorem start_keepingCache (h : Session.start o = .ok session) :
    Session.start o.keepingCache = .ok { session with options := o.keepingCache } := by
  unfold Session.start at h ⊢
  split at h
  case h_1 backend hfind =>
    cases h
    have hfind' : Backend.find? o.keepingCache.goPackage o.keepingCache.backendName =
      some backend := hfind
    rw [hfind']
  case h_2 => cases h

theorem newBag_keepingCache (h : Session.start o = .ok session) :
    Session.newBag { session with options := o.keepingCache } = session.newBag := by
  obtain rfl := MakesHistory.options_of_start h
  rfl

theorem keyOf_keepingCache (h : Session.start o = .ok session)
    (hdir : w'.store.workingDir = w.store.workingDir) (destination dir bytes : Text) :
    (planFor { session with options := o.keepingCache } destination dir w').keyOf bytes =
      (planFor session destination dir w).keyOf bytes := by
  obtain rfl := MakesHistory.options_of_start h
  rw [planFor, absolutePath_congr hdir]
  rfl

/-- **A warm cache is effective and harmless.** A run from an empty cache ends without a failure,
without an error and, if someone had listened, without a warning. Another run with the same
arguments, but without clearing the cache, finds the files as the first run left them. If it finds
its sources and its cache, then it ends without a failure. It skips all sources, in order, it has no
outputs and no errors, and it changes no file. -/
theorem generate_again_skips_all {v : World}
    (h : o.ColdStart session source destination dir paths w)
    (hrun : (o.generate source destination : StateM World _).run w = (.ok (none, g), w'))
    (herrors : g.bag.hasErrors = false)
    (hquiet : ∀ entry ∈ ((o.generate source destination : StateM World _).run w.listening).2.logged,
      entry.level ≠ .warning)
    (hstore : v.store = w'.store) (henvironment : v.environment = w.environment)
    (hcollect : ∃ found,
      ((collectSources source o.sourceExtension : StateM World _).run v).1 = .ok found)
    (hopen : ∃ cache,
      ((o.keepingCache.openCache : StateM World _).run v).1 = .ok cache) :
    ∃ g' v', (o.keepingCache.generate source destination : StateM World _).run v =
        (.ok (none, g'), v') ∧
      g'.skipped = paths ∧ g'.outputs = [] ∧ g'.bag.hasErrors = false ∧
      ∀ q t, v'.store.held q = some (.file t) ↔ v.store.held q = some (.file t) := by
  have htame := Tame.generate o source destination
  -- the run would have done the same if someone had listened
  obtain ⟨⟨result, u⟩, hheard⟩ : ∃ r,
    (o.generate source destination : StateM World _).run w.listening = r := ⟨_, rfl⟩
  obtain ⟨hresult, hsame⟩ := htame.same w.listening w rfl rfl
  have hmode := htame.logMode w.listening
  rw [hheard] at hquiet hmode
  rw [hheard, hrun] at hresult hsame
  obtain rfl : result = .ok (none, g) := hresult
  obtain ⟨hagree, hnumbered, jobs, hwarm, hkeys⟩ :=
    warm_of_generate h.listening hheard herrors ⟨⟨_, hmode⟩, hquiet⟩
  have hstore' : u.store = v.store := hsame.trans hstore.symm
  rw [hstore'] at hagree hnumbered hwarm hkeys
  -- the same sources are found, and they have the same keys
  change AgreeBelow (w.store.target source) w.store v.store at hagree
  have htidy := htame.tidy w h.tidy
  rw [hrun] at htidy
  obtain ⟨found, hfound⟩ := hcollect
  cases collectSources_congr hagree h.closed h.tidy (hstore ▸ htidy) h.collected hfound
  have hrecorded : ∀ path ∈ paths, ∃ bytes, v.store.load path = .ok bytes ∧
      ∃ (j : Job) (doc : Doc), j.key = (planFor { session with options := o.keepingCache }
        destination dir v).keyOf bytes ∧ j.Recorded ⟨dir⟩ doc v.store := by
    intro path hpath
    obtain ⟨bytes, hload, j, hj, hkey⟩ := hkeys path hpath
    obtain ⟨doc, hdoc⟩ := hwarm.recorded j hj
    rw [← keyOf_keepingCache (w := w.listening) h.started hagree.workingDir] at hkey
    exact ⟨bytes, hload, j, doc, hkey, hdoc⟩
  obtain ⟨bag, -, -, hbag, -⟩ := exists_sources_of_generate h.started h.collected hrun
  obtain ⟨g', v', hagain, hskipped, houtputs, hbag', hrewrites⟩ :=
    run_generate_warm (start_keepingCache h.started) h.cache rfl
      ((cacheDirIn_congr henvironment _).trans h.directory) hnumbered
      ((newBag_keepingCache h.started).trans hbag) hfound h.count hopen hrecorded
  refine ⟨g', v', hagain, hskipped, houtputs, ?_, fun q t => ⟨fun hheld => ?_, fun hheld => ?_⟩⟩
  · rw [hbag', Bag.hasErrors, (Session.newBag_eq_ok hbag).1]
    rfl
  · exact (hrewrites.file q t hheld).resolve_right not_false
  · exact hrewrites.held_of_not_new hheld fun _ => not_false

end Options

/-! ## Two runs -/

namespace TwoRuns

/-- Three sources, one of them in a directory of its own. The second and the third one have the same
content, without data types. -/
def start : World where
  store :=
    { nodes :=
        [([("d" : Text)], .directory), ([("d" : Text), ("a.adt" : Text)], .file 0),
          ([("d" : Text), ("b.adt" : Text)], .file 1), ([("d" : Text), ("s" : Text)], .directory),
          ([("d" : Text), ("s" : Text), ("c.adt" : Text)], .file 2)]
      contents := [(0, "A = A\n"), (1, ""), (2, "")]
      next := 3 }
  logMode := some ⟨true, false⟩

/-- The first run clears its cache. -/
def options : Options := { cache := true, clearCache := true, cacheDir := "c" }

def session : Session := ⟨options, .java⟩

def paths : List Text := ["d/a.adt", "d/b.adt", "d/s/c.adt"]

/-- The sources are found wherever both directories list them. -/
theorem collect_of_entries {w : World}
    (hfind : w.store.find "d" = .ok ([("d" : Text)], .directory))
    (hlisted : w.store.entries "d" =
      .ok [("a.adt", .regular), ("b.adt", .regular), ("s", .directory)])
    (hinner : w.store.entries "d/s" = .ok [("c.adt", .regular)]) :
    ((collectSources "d" options.sourceExtension : StateM World _).run w).1 = .ok paths := by
  have hbelow : filesIn w 4095 "d/s" = .ok ["d/s/c.adt"] :=
    filesIn_eq_ok.mpr ⟨_, hinner, by simp, rfl⟩
  have hfiles : filesIn w maxPath "d" = .ok paths := by
    refine filesIn_eq_ok.mpr ⟨_, hlisted, fun name hname => ?_, ?_⟩
    · obtain rfl : name = "s" := by simpa using hname
      exact ⟨_, hbelow⟩
    · have hat : filesAt w 4095 "d" ("s", .directory) = ["d/s/c.adt"] :=
        congrArg (fun r => r.toOption.getD []) hbelow
      rw [List.flatMap_cons, List.flatMap_cons, List.flatMap_singleton, hat]
      rfl
  have hsorted : paths.Pairwise fun name other => Text.le name other = true := by decide
  rw [collectSources_of_directory hfind hfiles]
  exact congrArg Except.ok (List.mergeSort_of_pairwise hsorted)

theorem sorted_names : (["a.adt", "b.adt", "s"] : List Text).Pairwise fun name other =>
    Text.le name other = true := by decide

theorem sorted_inner : (["c.adt"] : List Text).Pairwise fun name other =>
    Text.le name other = true := by decide

theorem coldStart : options.ColdStart session "d" "out" "c" paths start where
  started := rfl
  cache := rfl
  directory := rfl
  numbered q id hq := by
    have hall : ∀ x ∈ start.store.nodes, ∀ id, x.2 = .file id → id < start.store.next := by
      simp [start]
    exact Store.forall_node? (P := fun _ node => ∀ id, node = .file id → id < start.store.next)
      nofun hall q _ hq id rfl
  closed q node hq above hle hne := by
    have hall : ∀ x ∈ start.store.nodes, ∀ n < x.1.length,
        start.store.node? (x.1.take n) = some .directory := by decide +kernel
    have hlt : above.length < q.length :=
      Nat.lt_of_le_of_ne hle.length_le fun heq => hne (hle.eq_of_length heq)
    rw [List.prefix_iff_eq_take.mp hle]
    exact Store.forall_node? (P := fun q _ => ∀ n < q.length,
      start.store.node? (q.take n) = some .directory) nofun hall q node hq _ hlt
  tidy := by
    refine ⟨Store.forall_node? nofun ?_, nofun⟩
    decide +kernel
  units_apart := by decide
  cache_apart := by decide
  empty q t hle hheld := by
    obtain ⟨id, hnode, -⟩ := Store.held_eq_file.mp hheld
    have hall : ∀ x ∈ start.store.nodes, ¬ start.store.target "c" <+: x.1 := by decide +kernel
    exact Store.forall_node? (P := fun q _ => ¬ start.store.target "c" <+: q) (by decide) hall q _
      hnode hle
  collected :=
    collect_of_entries rfl (Eq.trans (Store.entries_of_sorted rfl (by rfl) sorted_names) rfl)
      (Eq.trans (Store.entries_of_sorted rfl (by rfl) sorted_inner) rfl)
  readable := by
    have hall : ∀ path ∈ paths, (start.store.load path).toOption.isSome = true := by decide +kernel
    intro path hpath
    exact Store.exists_load (hall path hpath)
  count := by decide
  distinct := by decide +kernel
  decodes path hpath doc hdoc := by
    have hall : ∀ path ∈ paths, path.length < 2 ^ 32 ∧ ∀ doc ∈ session.docAt start.store path,
        doc.types.length < 2 ^ 32 ∧
          ∀ d ∈ doc.types, (FileUnits.unitPath ⟨"out", ".java"⟩ doc d).length < 2 ^ 32 := by
      decide +kernel
    obtain ⟨hpath, hdocs⟩ := hall path hpath
    obtain ⟨htypes, hunits⟩ := hdocs doc hdoc
    exact Session.decodes_of_length_lt hpath (by decide) (by decide) htypes hunits

def plan : GenerationPlan := Options.planFor session "out" "c" start

/-- The world when the first run has cleared its cache. -/
def cleared : World := ((options.openCache : StateM World _).run start).2

/-- The work of the first run on its sources, and the world that it leaves. -/
def first : (Option Failure × Generation) × World :=
  (Generation.sources plan (.collected ⟨[], 100⟩ paths.length) paths : StateM World _).run cleared

theorem run_first : (options.generate "d" "out" : StateM World _).run start =
    (.ok first.1, first.2) := by
  have hopen : (session.options.openCache : StateM World _).run start =
      (.ok (some ⟨"c"⟩), cleared) := Prod.ext rfl rfl
  have hdir : cleared.store.workingDir = start.store.workingDir := rfl
  have hcollect : ((collectSources "d" session.options.sourceExtension :
      StateM World _).run start).1 = .ok paths := coldStart.collected
  have hgenerate := Session.run_generate hcollect hopen ⟨[], 100⟩ "out"
  rw [absolutePath_congr hdir] at hgenerate
  have hfirst : (session.generate ⟨[], 100⟩ "d" "out" : StateM World _).run start = first :=
    hgenerate
  have hbag : session.newBag = .ok ⟨[], 100⟩ := rfl
  rw [Options.generate, coldStart.started]
  dsimp only
  rw [hbag]
  generalize first = result at hfirst ⊢
  exact run_bind hfirst _

/-- The first run is quiet and writes one unit and two entries. It skips the third source, which has
the key of the second one. -/
theorem first_ends : first.1.1.isNone = true ∧ first.1.2.bag.hasErrors = false ∧
    first.1.2.outputs = ["out/A.java"] ∧ first.1.2.skipped = ["d/s/c.adt"] ∧
    (∀ entry ∈ first.2.logged, entry.level ≠ .warning) ∧
    ((options.keepingCache.openCache : StateM World _).run first.2).1.toOption.isSome = true ∧
    first.2.store.workingDir = [] ∧ first.2.store.nodes = start.store.nodes ++
      [([("out" : Text)], .directory), ([("out" : Text), ("A.java" : Text)], .file 3),
        ([("c" : Text)], .directory), ([("c" : Text), ("gen" : Text)], .directory),
        ([("c" : Text), ("gen" : Text), (plan.keyOf "A = A\n").hex ++ ".mp"], .file 4),
        ([("c" : Text), ("gen" : Text), (plan.keyOf "").hex ++ ".mp"], .file 5)] := by
  decide +kernel

theorem collect_first : ((collectSources "d" options.sourceExtension :
    StateM World _).run first.2).1 = .ok paths := by
  obtain ⟨-, -, -, -, -, -, hdir, hnodes⟩ := first_ends
  -- which files there are is all that counts, not what the entries are called
  generalize first.2 = w at hdir hnodes ⊢
  generalize (plan.keyOf "A = A\n").hex ++ ".mp" = name at hnodes
  generalize (plan.keyOf "").hex ++ ".mp" = name' at hnodes
  obtain ⟨⟨nodes, contents, opened, next, workingDir⟩, environment, mode, logged, printed,
    printedErrors⟩ := w
  dsimp only at hdir hnodes
  subst hdir hnodes
  exact collect_of_entries rfl (Eq.trans (Store.entries_of_sorted rfl (by rfl) sorted_names) rfl)
    (Eq.trans (Store.entries_of_sorted rfl (by rfl) sorted_inner) rfl)

end TwoRuns

open TwoRuns in
/-- The second run skips all three sources and leaves the unit and the entries alone. -/
theorem Options.generate_again_skips_three :
    ∃ g w' g' v', (options.generate "d" "out" : StateM World _).run start = (.ok (none, g), w') ∧
      g.outputs = ["out/A.java"] ∧ g.skipped = ["d/s/c.adt"] ∧
      (options.keepingCache.generate "d" "out" : StateM World _).run w' = (.ok (none, g'), v') ∧
      g'.skipped = ["d/a.adt", "d/b.adt", "d/s/c.adt"] ∧ g'.outputs = [] ∧
      ∀ q t, v'.store.held q = some (.file t) ↔ w'.store.held q = some (.file t) := by
  obtain ⟨hnone, herrors, houtputs, hskipped, hquiet, hopen, -⟩ := first_ends
  have hcollect := collect_first
  have hrun := run_first
  have henvironment := (Tame.generate options "d" "out").environment start
  rw [hrun] at henvironment
  generalize first = result at *
  obtain ⟨⟨failure, g⟩, w'⟩ := result
  obtain rfl : failure = none := Option.isNone_iff_eq_none.mp hnone
  have hquiet' : ∀ entry ∈ ((options.generate "d" "out" : StateM World _).run
      start.listening).2.logged, entry.level ≠ .warning := by
    have hlisten : start.listening = start := rfl
    rw [hlisten, hrun]
    exact hquiet
  have hopen' : ∃ cache,
      ((options.keepingCache.openCache : StateM World _).run w').1 = .ok cache := by
    cases hopened : ((options.keepingCache.openCache : StateM World _).run w').1 with
    | error e =>
      rw [hopened] at hopen
      cases hopen
    | ok cache => exact ⟨cache, rfl⟩
  obtain ⟨g', v', hagain, hskips, hnothing, -, hfiles⟩ := generate_again_skips_all coldStart hrun
    herrors hquiet' rfl henvironment ⟨paths, hcollect⟩ hopen'
  exact ⟨g, w', g', v', hrun, houtputs, hskipped, hagain, hskips, hnothing, hfiles⟩

end AdtCompiler
