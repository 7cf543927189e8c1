import AdtCompiler.Proofs.Cache
import AdtCompiler.Run.Generate

/-!
# The work on one source

A run works on its sources one after another. What the work on one of them may write is known in
advance from the plan of the run and from the file that was loaded: the units of the document, if
the source has one without clashes, and the entry of the cache that tells of these units.

## Contents

- `Job`: the work on one source, `Job.Writes`: what it may write, and `Job.Intact`: that its units
  are there
- `Generation.isCached_iff`: what it means that a source is skipped
- `Generation.run_source`: nothing else is written
-/

namespace AdtCompiler

open Store (Rewrites)

/-! ## Jobs -/

/-- The work on one source: the plan of the run, the path of the source, and the file that was
loaded from there. -/
structure Job where
  plan : GenerationPlan
  path : Text
  file : SourceFile

namespace Job

/-- What the key of a job is made of. -/
def keyParts (j : Job) : List Text := j.plan.session.keyParts j.file.digest j.plan.destination

/-- The key of a job in the cache. -/
def key (j : Job) : Text := j.plan.session.cacheKey j.file.digest j.plan.destination

/-- The document of a job, if the source has one without clashes. -/
def doc? (j : Job) : Option Doc :=
  (j.file.parse j.plan.session.backend.wordTable).toOption.filter fun doc =>
    (doc.check j.plan.session.backend.rules).isEmpty

/-- The path of a unit. -/
def unitPath (j : Job) (doc : Doc) (d : DataType) : Text := j.plan.units.unitPath doc d

/-- The text of a unit. -/
def unitText (j : Job) (doc : Doc) (d : DataType) : Text :=
  doc.unitText j.plan.session.backend j.plan.session.options.versionText d

/-- What a cache remembers of a job that succeeded. -/
def entry (j : Job) (doc : Doc) : CacheEntry :=
  Generation.entryOf j.plan j.path ⟨doc.types.map (j.unitPath doc),
    doc.types.map fun d => Digest.sha256 (j.unitText doc d)⟩

theorem getD_someUnlessEmpty {α : Type} (items : List α) :
    (Generation.someUnlessEmpty items).getD [] = items := by
  cases items <;> rfl

theorem outputList_entry (j : Job) (doc : Doc) :
    (j.entry doc).outputList = doc.types.map (j.unitPath doc) := getD_someUnlessEmpty _

theorem digestList_entry (j : Job) (doc : Doc) :
    (j.entry doc).digestList = doc.types.map fun d => Digest.sha256 (j.unitText doc d) :=
  getD_someUnlessEmpty _

theorem zip_entry (j : Job) (doc : Doc) : (j.entry doc).outputList.zip (j.entry doc).digestList =
    doc.types.map fun d => (j.unitPath doc d, Digest.sha256 (j.unitText doc d)) := by
  rw [j.outputList_entry, j.digestList_entry, List.zip_map']

/-- All that a job may write: the units of its document, and the entry of its key. -/
def Writes (j : Job) (s : Store) (q : Place) (x : Text) : Prop :=
  ∃ doc, j.doc? = some doc ∧
    ((∃ d ∈ doc.types, s.place (j.unitPath doc d) = .ok q ∧ x = j.unitText doc d) ∨
      ∃ c, j.plan.cache = some c ∧ s.place (c.pathFor j.key) = .ok q ∧ x = (j.entry doc).pack)

/-- Whether every unit of a job is in its file. -/
def Intact (j : Job) (doc : Doc) (s : Store) : Prop :=
  ∀ d ∈ doc.types, s.load (j.unitPath doc d) = .ok (j.unitText doc d)

variable {j : Job} {doc : Doc}

theorem doc?_eq_some : j.doc? = some doc ↔
    j.file.parse j.plan.session.backend.wordTable = .ok doc ∧
      (doc.check j.plan.session.backend.rules).isEmpty = true := by
  rw [doc?, Option.filter_eq_some_iff]
  rcases j.file.parse j.plan.session.backend.wordTable with e | doc' <;> simp [Except.toOption]

theorem readable_of_doc? (h : j.doc? = some doc) :
    doc.Readable j.plan.session.backend.wordTable :=
  SourceFile.readable_of_parse (doc?_eq_some.mp h).1

theorem namesApart_of_doc? (h : j.doc? = some doc) : doc.NamesApart :=
  (Doc.check_isEmpty_iff.mp (doc?_eq_some.mp h).2).1

end Job

/-- A plan that options and a destination lead to. -/
structure GenerationPlan.Proper (plan : GenerationPlan) : Prop where
  started : Session.start plan.session.options = .ok plan.session
  extension_eq : plan.units.extension = plan.session.backend.extension

/-- The job for a source in a run, if the source can be loaded. -/
def Generation.job? (g : Generation) (plan : GenerationPlan) (path : Text) (w : World) :
    Option Job :=
  (w.store.load path).toOption.map fun bytes => ⟨plan, path, (g.files.loaded path bytes).2⟩

namespace GenerationPlan.Proper

variable {plan : GenerationPlan}

theorem backend_cases (h : plan.Proper) : plan.session.backend = .java ∨
    plan.session.backend = .go plan.session.options.goPackage := by
  have hstart := h.started
  unfold Session.start at hstart
  split at hstart
  · rename_i backend hfind
    have hbackend : backend = plan.session.backend :=
      congrArg Session.backend (Except.ok.inj hstart)
    unfold Backend.find? at hfind
    split at hfind
    · exact .inl (hbackend ▸ (Option.some.inj hfind).symm)
    · split at hfind
      · exact .inr (hbackend ▸ (Option.some.inj hfind).symm)
      · cases hfind
  · cases hstart

/-- The extensions of units end with letters. -/
theorem extension_cases (h : plan.Proper) :
    plan.units.extension = ".java" ∨ plan.units.extension = ".go" := by
  rcases h.backend_cases with hjava | hgo
  · exact .inl (by rw [h.extension_eq, hjava]; rfl)
  · exact .inr (by rw [h.extension_eq, hgo]; rfl)

theorem extension (h : plan.Proper) : FileUnits.Extension plan.units.extension := by
  rcases h.extension_cases with hext | hext <;> rw [hext]
  · exact ⟨by decide, ".jav", 97, by decide, by decide⟩
  · exact ⟨by decide, ".g", 111, by decide, by decide⟩

/-- Units are told from entries by the ends of their names. -/
theorem not_entryPlace (h : plan.Proper) {table : WordTable} {doc : Doc} {d : DataType}
    (hreadable : doc.Readable table) (hd : d ∈ doc.types) {s : Store} {q : Place} {key : Text}
    (hq : s.place (plan.units.unitPath doc d) = .ok q) : ¬ EntryPlace key q := by
  rintro ⟨above', heq⟩
  obtain ⟨above, rfl⟩ := FileUnits.place_unitPath h.extension hreadable hd hq
  have hname : d.name ++ plan.units.extension = key.hex ++ ".mp" := by
    have := congrArg List.getLast? heq
    simpa using this
  have hlast := congrArg List.getLast? hname
  rcases h.extension_cases with hext | hext <;>
    rw [hext, List.getLast?_append, List.getLast?_append] at hlast
  · exact absurd (Option.some.inj (hlast : some (97 : UInt8) = some 112)) (by decide)
  · exact absurd (Option.some.inj (hlast : some (111 : UInt8) = some 112)) (by decide)

end GenerationPlan.Proper

/-! ## Reports -/

namespace Bag

variable {b : Bag} {d : Diagnostic}

theorem hasErrors_add (hroom : b.size < b.limit) (hd : d.severity = .error) :
    (b.add d).1.hasErrors = true := by
  rw [add, if_neg (Nat.not_le.mpr hroom)]
  simp [hasErrors, hd]

theorem hasErrors_addMany_of_hasErrors (h : b.hasErrors = true) (ds : List Diagnostic) :
    (b.addMany ds).hasErrors = true := by
  induction ds generalizing b with
  | nil => exact h
  | cons d ds ih =>
    apply ih
    show (b.add d).1.hasErrors = true
    unfold add
    split
    · exact h
    · simp only [hasErrors, List.any_append, Bool.or_eq_true] at h ⊢
      exact .inl h

/-- Where there is room for one of them, errors are not lost altogether. -/
theorem hasErrors_addMany (hroom : b.size < b.limit) {ds : List Diagnostic} (hne : ds ≠ [])
    (hds : ∀ d ∈ ds, d.severity = .error) : (b.addMany ds).hasErrors = true := by
  obtain ⟨d, rest, rfl⟩ := List.exists_cons_of_ne_nil hne
  have hfirst := hasErrors_add hroom (hds d List.mem_cons_self)
  exact hasErrors_addMany_of_hasErrors hfirst rest

end Bag

theorem Finding.severity_diagnostic (f : Finding) (file : UInt32) (places : List Span) :
    (f.diagnostic file places).severity = .error := by
  unfold Finding.diagnostic
  split <;> rfl

/-- Findings are reported where there is room for one of them. -/
theorem FindingSet.hasErrors_addMany {found : FindingSet} (h : ¬ found.isEmpty = true) {bag : Bag}
    (hroom : bag.size < bag.limit) (file : SourceFile) (table : WordTable) :
    (bag.addMany (found.diagnostics file table)).hasErrors = true := by
  apply Bag.hasErrors_addMany hroom
  · intro hnil
    have hsorted : found.items.mergeSort Finding.le = [] := List.map_eq_nil_iff.mp hnil
    have hlength := congrArg List.length hsorted
    rw [List.length_mergeSort, List.length_nil, List.length_eq_zero_iff] at hlength
    exact h (by simp [FindingSet.isEmpty, hlength])
  · intro d hd
    obtain ⟨f, -, rfl⟩ := List.mem_map.mp hd
    exact f.severity_diagnostic _ _

namespace Generation

variable {w : World}

theorem run_enter (g : Generation) (name : Text) (w : World) :
    ∃ timer phase, (g.enter name : StateM World _).run w = (({ g with timer }, phase), w) :=
  ⟨_, _, rfl⟩

theorem run_leave (g : Generation) (phase : Nat) (note : Text) (w : World) :
    ∃ timer, (g.leave phase note : StateM World _).run w = ({ g with timer }, w) :=
  ⟨_, rfl⟩

/-- The survey of files that can be read succeeds, with the digests of their texts. -/
theorem run_survey {α : Type} {items : List α} {path text : α → Text}
    (hload : ∀ a ∈ items, w.store.load (path a) = .ok (text a)) (hashed : Bool) (found : Written) :
    (survey hashed found (items.map path) : StateM World _).run w =
      ((none, ⟨found.paths ++ items.map path, found.digests ++
        if hashed then items.map fun a => Digest.sha256 (text a) else []⟩), w) := by
  induction items generalizing found with
  | nil => cases hashed <;> simp [survey] <;> rfl
  | cons a rest ih =>
    simp only [List.forall_mem_cons] at hload
    have hdigest := run_fileDigest w (path a)
    rw [hload.1] at hdigest
    cases hashed with
    | true =>
      rw [List.map_cons, survey, if_pos rfl, run_bind hdigest]
      simpa [Except.map] using
        ih hload.2 ⟨found.paths ++ [path a], found.digests ++ [Digest.sha256 (text a)]⟩
    | false =>
      rw [List.map_cons, survey, if_neg (by simp)]
      simpa using ih hload.2 ⟨found.paths ++ [path a], found.digests⟩

/-- Asking the cache changes no file. -/
theorem keepsStore_isCached (plan : GenerationPlan) (path key : Text) :
    KeepsStore (isCached plan path key) :=
  KeepsStore.compositional.isCached (fun _ _ => rfl) KeepsStore.log plan path key

/-- The cache says that files are intact if it has a fresh entry of the key. -/
theorem isCached_iff {plan : GenerationPlan} {path key : Text} :
    ((isCached plan path key : StateM World _).run w).1 = true ↔
      ∃ c e bytes, plan.cache = some c ∧ w.store.load (c.pathFor key) = .ok bytes ∧
        CacheEntry.unpack? bytes = some e ∧ e.schema = CacheEntry.currentSchema ∧
        e.outputList.length = e.digestList.length ∧ ∀ x ∈ e.outputList.zip e.digestList,
          ∃ t, w.store.load x.1 = .ok t ∧ Digest.sha256 t = x.2 := by
  unfold isCached
  rcases plan.cache with _ | c
  · exact iff_of_false nofun (by simp)
  · obtain ⟨⟨found, w'⟩, hget⟩ : ∃ r, (c.get key : StateM World _).run w = r := ⟨_, rfl⟩
    -- asking for the entry changes no file, so it is the same files that are compared
    have hstore : w'.store = w.store := by
      have := KeepsStore.get c key w
      rwa [hget] at this
    have hfound : ∀ e, found = .ok (some e) ↔ ∃ bytes, w.store.load (c.pathFor key) = .ok bytes ∧
        CacheEntry.unpack? bytes = some e ∧ e.schema = CacheEntry.currentSchema := by
      intro e
      rw [← DiskCache.get_eq_some_iff, hget]
    dsimp only
    rw [run_bind hget]
    constructor
    · intro h
      rcases found with e | _ | entry
      · cases h
      · cases h
      · obtain ⟨bytes, hbytes, hunpack, hschema⟩ := (hfound entry).mp rfl
        have hfresh := CacheEntry.isFresh_iff.mp h
        rw [hstore] at hfresh
        exact ⟨c, entry, bytes, rfl, hbytes, hunpack, hschema, hfresh⟩
    · rintro ⟨c', e, bytes, hc, hbytes, hunpack, hschema, hfresh⟩
      cases hc
      rw [(hfound e).mpr ⟨bytes, hbytes, hunpack, hschema⟩]
      rw [← hstore] at hfresh
      exact CacheEntry.isFresh_iff.mpr hfresh

/-- Remembering a job changes nothing but the place of its entry. -/
theorem run_remember (hs : w.store.Numbered) (plan : GenerationPlan) (path key : Text)
    (found : Written) :
    ∃ w', (remember plan path key found : StateM World _).run w = ((), w') ∧
      Rewrites (fun q x => ∃ c, plan.cache = some c ∧ w'.store.place (c.pathFor key) = .ok q ∧
        x = (entryOf plan path found).pack) w.store w'.store := by
  unfold remember
  cases hcache : plan.cache with
  | none => exact ⟨w, rfl, .refl hs⟩
  | some c =>
    obtain ⟨failure, w₁, hput, hrewrites, -⟩ :=
      DiskCache.run_put hs c key (entryOf plan path found)
    have hwrites : Rewrites (fun q x => ∃ c', some c = some c' ∧
        w₁.store.place (c'.pathFor key) = .ok q ∧ x = (entryOf plan path found).pack)
        w.store w₁.store := hrewrites.mono fun q x hx => ⟨c, rfl, hx⟩
    cases failure with
    | none => exact ⟨w₁, run_bind hput _, hwrites⟩
    | some e =>
      -- a failure is only told to the log
      obtain ⟨w₂, hlog, hstore⟩ := w₁.run_log ⟨.warning, "cannot update cache",
        [("source", .text path), ("error", .text e.message)]⟩
      rw [← hstore] at hwrites
      exact ⟨w₂, (run_bind hput _).trans hlog, hwrites⟩

/-- When its units are in their files, a job lists them and remembers them. -/
theorem run_emit_done {j : Job} {doc : Doc} {w₁ : World}
    (hemit : (doc.emit j.plan.session.backend j.plan.session.options.versionText
      j.plan.units.factory : StateM World _).run w = (.done, w₁))
    (hloads : j.Intact doc w₁.store) (g : Generation) :
    ∃ timer found w₂, w₂.store = w₁.store ∧
      (∀ c, j.plan.cache = some c → entryOf j.plan j.path found = j.entry doc) ∧
      ∀ w₃, (remember j.plan j.path j.key found : StateM World _).run w₂ = ((), w₃) →
        (g.emit j.plan j.path j.key doc : StateM World _).run w = ((.done,
          { g with timer, outputs := g.outputs ++ doc.types.map (j.unitPath doc) }), w₃) := by
  obtain ⟨timer, phase, henter⟩ := g.run_enter "emit" w
  obtain ⟨timer', hleave⟩ :=
    { g with timer }.run_leave phase (Text.decimal doc.types.length ++ " types") w₁
  -- If there is a cache, the files are hashed, and the entry is the one of the job.
  obtain ⟨found, hsurvey, hpaths, hfound⟩ : ∃ found : Written,
      (survey j.plan.cache.isSome {} (doc.types.map (j.unitPath doc)) : StateM World _).run w₁ =
        ((none, found), w₁) ∧ found.paths = doc.types.map (j.unitPath doc) ∧
      ∀ c, j.plan.cache = some c → entryOf j.plan j.path found = j.entry doc :=
    ⟨_, run_survey hloads _ {}, rfl, fun c hc => by rw [hc]; rfl⟩
  obtain ⟨w₂, hlog, hstore⟩ := w₁.run_log ⟨.info, "generated",
    [("source", .text j.path), ("types", .number doc.types.length)]⟩
  refine ⟨timer', found, w₂, hstore, hfound, fun w₃ hremember => ?_⟩
  rw [← hpaths]
  refine (run_bind henter _).trans ((run_bind hemit _).trans ((run_bind hleave _).trans ?_))
  exact (run_bind hsurvey _).trans ((run_bind hlog _).trans (run_bind hremember _))

/-- The emission of a document of a job writes nothing but what the job may write. It fails, or the
units are in their files in the end and were remembered. -/
theorem emit_cases {j : Job} {doc : Doc} (hplan : j.plan.Proper) (hdoc : j.doc? = some doc)
    (hs : w.store.Numbered) (g : Generation) :
    (∃ e timer w', (g.emit j.plan j.path j.key doc : StateM World _).run w =
        ((.failed e, { g with timer }), w') ∧ Rewrites (j.Writes w'.store) w.store w'.store) ∨
      ∃ timer found w₁ w', (g.emit j.plan j.path j.key doc : StateM World _).run w = ((.done,
          { g with timer, outputs := g.outputs ++ doc.types.map (j.unitPath doc) }), w') ∧
        Rewrites (j.Writes w'.store) w.store w'.store ∧ j.Intact doc w'.store ∧
        w₁.store.Numbered ∧
        (∀ c, j.plan.cache = some c → entryOf j.plan j.path found = j.entry doc) ∧
        (remember j.plan j.path j.key found : StateM World _).run w₁ = ((), w') := by
  obtain ⟨timer, phase, henter⟩ := g.run_enter "emit" w
  obtain ⟨ending, w₁, hemit, hunits, hloads⟩ :=
    Doc.run_emit hplan.extension (Job.readable_of_doc? hdoc) (Job.namesApart_of_doc? hdoc) hs
      j.plan.session.backend j.plan.session.options.versionText
  obtain ⟨timer', hleave⟩ :=
    { g with timer }.run_leave phase (Text.decimal doc.types.length ++ " types") w₁
  -- even if it fails, some units may have been written
  have hfailed : Rewrites (j.Writes w₁.store) w.store w₁.store :=
    hunits.mono fun q x hx => ⟨doc, hdoc, .inl hx⟩
  cases ending with
  | failed e =>
    exact .inl ⟨_, timer', w₁,
      (run_bind henter _).trans ((run_bind hemit _).trans (run_bind hleave _)), hfailed⟩
  | crashed =>
    exact .inl ⟨_, timer', w₁,
      (run_bind henter _).trans ((run_bind hemit _).trans (run_bind hleave _)), hfailed⟩
  | done =>
    have hintact : j.Intact doc w₁.store := hloads rfl
    obtain ⟨timer, found, w₂, hstore, hfound, hrun⟩ := run_emit_done hemit hintact g
    rw [← hstore] at hunits hintact
    obtain ⟨w₃, hremember, hentry⟩ := run_remember hunits.numbered j.plan j.path j.key found
    refine .inr ⟨timer, found, w₂, w₃, hrun w₃ hremember, ?_, fun d hd => ?_, hunits.numbered,
      hfound, hremember⟩
    · -- units first, then the entry; paths lead to the same places all the time
      refine (hunits.mono ?_).trans (hentry.mono ?_)
      · rintro q x ⟨d, hd, hq, hx⟩
        exact ⟨doc, hdoc, .inl ⟨d, hd, hentry.place hq, hx⟩⟩
      · rintro q x ⟨c, hc, hq, hx⟩
        exact ⟨doc, hdoc, .inr ⟨c, hc, hq, hfound c hc ▸ hx⟩⟩
    · -- the entry is not in the place of a unit
      refine hentry.load (hintact d hd) fun q hq x hx => ?_
      obtain ⟨c, -, hplace, -⟩ := hx
      exact hplan.not_entryPlace (Job.readable_of_doc? hdoc) hd hq (c.place_pathFor hplace)

/-- A source that is too long for offsets ends the run. -/
theorem run_compile_long {j : Job} (hsize : UInt32.size ≤ j.file.content.length) (g : Generation)
    (w : World) : ∃ timer, (g.compile j.plan j.path j.key j.file : StateM World _).run w =
      ((.failed (.ofCause .impossible), { g with timer }), w) := by
  obtain ⟨timer, phase, henter⟩ := g.run_enter "parse" w
  have hparse : j.plan.session.parse j.file g.bag = .error (.ofCause .impossible) := by
    rw [Session.parse, SourceFile.parse_of_long hsize]
  refine ⟨timer, (run_bind henter _).trans ?_⟩
  dsimp only
  rw [hparse]
  rfl

/-- A source of another length that is no document, or one with clashes, is rejected and
reported. -/
theorem run_compile_rejected {j : Job} (hsize : j.file.content.length < UInt32.size)
    (hdoc : j.doc? = none) (g : Generation) (w : World) :
    ∃ timer bag, (g.compile j.plan j.path j.key j.file : StateM World _).run w =
        ((.rejected, { g with timer, bag }), w) ∧
      (g.bag.size < g.bag.limit → bag.hasErrors = true) := by
  obtain ⟨timer, phase, henter⟩ := g.run_enter "parse" w
  rcases SourceFile.parse_sentence_cases hsize j.plan.session.backend.wordTable with
    ⟨⟨doc, hread⟩, -⟩ | ⟨⟨e, hread⟩, -⟩
  case inr =>
    have hparse : j.plan.session.parse j.file g.bag = .ok (none, (g.bag.add e.diagnostic).1) := by
      rw [Session.parse, hread]
    obtain ⟨timer₂, hleave⟩ :=
      { g with timer, bag := (g.bag.add e.diagnostic).1 }.run_leave phase j.path w
    refine ⟨timer₂, (g.bag.add e.diagnostic).1, (run_bind henter _).trans ?_,
      fun hroom => Bag.hasErrors_add hroom rfl⟩
    dsimp only
    rw [hparse]
    exact run_bind hleave _
  case inl =>
    have hparse : j.plan.session.parse j.file g.bag = .ok (some doc, g.bag) := by
      rw [Session.parse, hread]
    have hfound : ¬ (doc.check j.plan.session.backend.rules).isEmpty = true := by
      -- A document that passed would be the document of the job.
      intro hpass
      rw [Job.doc?_eq_some.mpr ⟨hread, hpass⟩] at hdoc
      cases hdoc
    obtain ⟨bag, hbag⟩ : ∃ bag, bag = g.bag.addMany
      ((doc.check j.plan.session.backend.rules).diagnostics j.file
        j.plan.session.backend.wordTable) := ⟨_, rfl⟩
    have hcheck : j.plan.session.check j.file doc g.bag = (false, bag) := by
      rw [Session.check, if_neg hfound, hbag]
    obtain ⟨timer₂, hleave⟩ := { g with timer }.run_leave phase j.path w
    obtain ⟨timer₃, phase₃, henter₃⟩ := { g with timer := timer₂ }.run_enter "check" w
    obtain ⟨timer₄, hleave₄⟩ := { g with timer := timer₃, bag }.run_leave phase₃ j.path w
    refine ⟨timer₄, bag, (run_bind henter _).trans ?_, fun hroom => ?_⟩
    · dsimp only
      rw [hparse]
      refine (run_bind hleave _).trans ((run_bind henter₃ _).trans ?_)
      dsimp only
      rw [hcheck]
      exact run_bind hleave₄ _
    · rw [hbag]
      exact FindingSet.hasErrors_addMany hfound hroom _ _

/-- The document of a source without clashes is emitted, and nothing is reported. -/
theorem run_compile_accepted {j : Job} {doc : Doc} (hdoc : j.doc? = some doc) (g : Generation)
    (w : World) : ∃ timer, (g.compile j.plan j.path j.key j.file : StateM World _).run w =
      ({ g with timer }.emit j.plan j.path j.key doc : StateM World _).run w := by
  obtain ⟨hread, hpass⟩ := Job.doc?_eq_some.mp hdoc
  have hparse : j.plan.session.parse j.file g.bag = .ok (some doc, g.bag) := by
    rw [Session.parse, hread]
  have hcheck : j.plan.session.check j.file doc g.bag = (true, g.bag) := by
    rw [Session.check, if_pos hpass]
  -- between the two steps only the times change
  obtain ⟨timer, phase, henter⟩ := g.run_enter "parse" w
  obtain ⟨timer₂, hleave⟩ := { g with timer }.run_leave phase j.path w
  obtain ⟨timer₃, phase₃, henter₃⟩ := { g with timer := timer₂ }.run_enter "check" w
  obtain ⟨timer₄, hleave₄⟩ := { g with timer := timer₃ }.run_leave phase₃ j.path w
  refine ⟨timer₄, (run_bind henter _).trans ?_⟩
  dsimp only
  rw [hparse]
  refine (run_bind hleave _).trans ((run_bind henter₃ _).trans ?_)
  dsimp only
  rw [hcheck]
  exact run_bind hleave₄ _

/-- The compilation of a loaded source writes nothing but what its job may write. -/
theorem run_compile {j : Job} (hplan : j.plan.Proper) (hs : w.store.Numbered) (g : Generation) :
    ∃ result w', (g.compile j.plan j.path j.key j.file : StateM World _).run w = (result, w') ∧
      Rewrites (j.Writes w'.store) w.store w'.store ∧ result.2.skipped = g.skipped := by
  cases hdoc : j.doc? with
  | none =>
    rcases Nat.lt_or_ge j.file.content.length UInt32.size with hsize | hsize
    · obtain ⟨timer, bag, hrun, -⟩ := run_compile_rejected hsize hdoc g w
      exact ⟨_, w, hrun, .refl hs, rfl⟩
    · obtain ⟨timer, hrun⟩ := run_compile_long hsize g w
      exact ⟨_, w, hrun, .refl hs, rfl⟩
  | some doc =>
    obtain ⟨timer, hrun⟩ := run_compile_accepted hdoc g w
    rcases emit_cases hplan hdoc hs { g with timer } with
      ⟨e, timer', w', hemit, hrewrites⟩ | ⟨timer', found, w₁, w', hemit, hrewrites, -⟩
    · exact ⟨_, w', hrun.trans hemit, hrewrites, rfl⟩
    · exact ⟨_, w', hrun.trans hemit, hrewrites, rfl⟩

/-- The work on a source starts with loading it. -/
theorem run_load_source (g : Generation) (path : Text) (w : World) :
    (g.files.load path : StateM World _).run w =
      ((w.store.load path).map (g.files.loaded path), w) := by
  have hload : (Host.load path : StateM World _).run w = (w.store.load path, w) := rfl
  refine (run_bind hload _).trans ?_
  cases w.store.load path <;> rfl

/-- Without its source a job fails. -/
theorem run_source_unread {path : Text} {e : FileError} (he : w.store.load path = .error e)
    (g : Generation) (plan : GenerationPlan) :
    ∃ timer, (g.source plan path : StateM World _).run w =
      ((.failed (.ofFile (.loading path) e), { g with timer }), w) := by
  obtain ⟨timer, phase, henter⟩ := g.run_enter "load" w
  obtain ⟨timer₂, hleave⟩ := { g with timer }.run_leave phase path w
  have hfile := { g with timer }.run_load_source path w
  rw [he] at hfile
  exact ⟨timer₂, (run_bind henter _).trans ((run_bind hfile _).trans (run_bind hleave _))⟩

/-- A source that can be read, and whose files are intact as the cache knows, is skipped. -/
theorem run_source_skipped {g : Generation} {plan : GenerationPlan} {path bytes : Text}
    {w₁ : World} (hbytes : w.store.load path = .ok bytes)
    (hcached : (isCached plan path (Job.mk plan path (g.files.loaded path bytes).2).key :
      StateM World _).run w = (true, w₁)) :
    ∃ timer w₂, (g.source plan path : StateM World _).run w = ((.done, { g with
      timer, files := (g.files.loaded path bytes).1, skipped := g.skipped ++ [path] }), w₂) ∧
        w₂.store = w₁.store := by
  obtain ⟨timer, phase, henter⟩ := g.run_enter "load" w
  obtain ⟨timer₂, hleave⟩ := { g with timer }.run_leave phase path w
  have hfile := { g with timer }.run_load_source path w
  rw [hbytes] at hfile
  obtain ⟨w₂, hlog, hstore⟩ := w₁.run_log ⟨.info, "unchanged, skipping", [("source", .text path)]⟩
  refine ⟨timer₂, w₂, (run_bind henter _).trans ((run_bind hfile _).trans ?_), hstore⟩
  exact (run_bind hleave _).trans ((run_bind hcached _).trans (run_bind hlog _))

/-- A source that can be read, and that the cache does not know, is compiled. -/
theorem run_source_compile {g : Generation} {plan : GenerationPlan} {path bytes : Text}
    {w₁ : World} (hbytes : w.store.load path = .ok bytes)
    (hcached : (isCached plan path (Job.mk plan path (g.files.loaded path bytes).2).key :
      StateM World _).run w = (false, w₁)) :
    ∃ timer, (g.source plan path : StateM World _).run w =
      ({ g with timer, files := (g.files.loaded path bytes).1 }.compile plan path
        (Job.mk plan path (g.files.loaded path bytes).2).key (g.files.loaded path bytes).2 :
          StateM World _).run w₁ := by
  obtain ⟨timer, phase, henter⟩ := g.run_enter "load" w
  obtain ⟨timer₂, hleave⟩ := { g with timer }.run_leave phase path w
  have hfile := { g with timer }.run_load_source path w
  rw [hbytes] at hfile
  refine ⟨timer₂, (run_bind henter _).trans ((run_bind hfile _).trans ?_)⟩
  exact (run_bind hleave _).trans (run_bind hcached _)

/-- The work on a source writes nothing but what its job may write, and it skips the source
exactly if the cache says that its files are intact. -/
theorem run_source {plan : GenerationPlan} (hplan : plan.Proper) (hs : w.store.Numbered)
    (g : Generation) (path : Text) :
    ∃ result w', (g.source plan path : StateM World _).run w = (result, w') ∧
      Rewrites (fun q x => ∃ j ∈ g.job? plan path w, j.Writes w'.store q x) w.store w'.store ∧
      (result.2.skipped ≠ g.skipped ↔ ∃ j ∈ g.job? plan path w,
        ((isCached plan path j.key : StateM World _).run w).1 = true) := by
  rcases hbytes : w.store.load path with e | bytes
  · obtain ⟨timer, hrun⟩ := run_source_unread hbytes g plan
    refine ⟨_, w, hrun, .refl hs, iff_of_false (fun h => h rfl) ?_⟩
    simp [job?, hbytes, Except.toOption]
  · rcases hloaded : g.files.loaded path bytes with ⟨files, file⟩
    have hjob : g.job? plan path w = some ⟨plan, path, file⟩ := by
      simp [job?, hbytes, hloaded, Except.toOption]
    obtain ⟨⟨cached, w₁⟩, hcached⟩ : ∃ r,
        (isCached plan path (Job.mk plan path file).key : StateM World _).run w = r := ⟨_, rfl⟩
    have hstore : w₁.store = w.store := by
      have := keepsStore_isCached plan path (Job.mk plan path file).key w
      rwa [hcached] at this
    cases cached with
    | true =>
      -- the source is skipped, and nothing else can add to the skipped ones
      obtain ⟨timer, w₂, hrun, hstore₂⟩ :=
        run_source_skipped (g := g) hbytes (by rw [hloaded]; exact hcached)
      refine ⟨_, w₂, hrun, ?_, iff_of_true (by simp) ⟨_, hjob, by rw [hcached]⟩⟩
      rw [hstore₂, hstore]
      exact .refl hs
    | false =>
      -- the source is compiled
      rw [← hstore] at hs
      obtain ⟨timer', hrun⟩ := run_source_compile (g := g) hbytes (by rw [hloaded]; exact hcached)
      rw [hloaded] at hrun
      obtain ⟨result, w', hcompile, hrewrites, hkept⟩ :=
        run_compile (j := ⟨plan, path, file⟩) hplan hs { g with timer := timer', files }
      refine ⟨result, w', hrun.trans hcompile, ?_, iff_of_false (fun h => h hkept) ?_⟩
      · rw [hstore] at hrewrites
        exact hrewrites.mono fun q x hx => ⟨_, hjob, hx⟩
      · simp [hjob, hcached]

end Generation

end AdtCompiler
