import AdtCompiler.Proofs.CacheSoundness
import AdtCompiler.Proofs.RunOutcome
import AdtCompiler.Proofs.Tameness
import AdtCompiler.Proofs.UnitPath

/-!
# Jobs on record

A job is on record if the cache has its entry and its units are in their files. Work on a source
puts its job on record, or it fails, or the source is rejected, or it was skipped. That an entry
cannot be written is no failure of a run, but there is a warning of it in the log. So a job that is
done is on record for sure only if the log is kept and has no warning.

## Contents

- `World.Quiet`: a world that was not warned of anything
- `Job.Recorded`: a job on record, and what does not disturb it
- `Generation.source_cases`: how the work on a source ends
-/

namespace AdtCompiler

open Store (Rewrites)

/-! ## Quiet runs -/

/-- A log is kept, and nothing in it is a warning. -/
structure World.Quiet (w : World) : Prop where
  mode : ∃ mode, w.logMode = some mode
  logged : ∀ entry ∈ w.logged, entry.level ≠ .warning

/-- What comes before something quiet was quiet, since nothing is taken out of the log. -/
theorem Tame.quiet {α : Type} {x : StateM World α} (hx : Tame x) {w w' : World} {a : α}
    (hrun : x.run w = (a, w')) (h : w'.Quiet) : w.Quiet := by
  obtain rfl : w' = (x.run w).2 := by rw [hrun]
  constructor
  · rw [← hx.logMode w]
    exact h.mode
  · intro entry hentry
    exact h.logged entry ((hx.logged w).subset hentry)

/-! ## Jobs on record -/

theorem GenerationPlan.Proper.isDotLetters {plan : GenerationPlan} (h : plan.Proper) :
    plan.units.extension.isDotLetters = true := by
  rcases h.extension_cases with hext | hext <;> rw [hext] <;> decide

/-- The names of the units of a document. -/
def Doc.unitNames (doc : Doc) : List Text := doc.types.map doc.qualifiedName

namespace Job

variable {j j' : Job} {doc doc' : Doc} {c : DiskCache} {s s' : Store} {q : Place} {x : Text}

/-- A job is on record: the cache has its entry, which can be decoded, and its units are in their
files. -/
structure Recorded (j : Job) (c : DiskCache) (doc : Doc) (s : Store) : Prop where
  doc? : j.doc? = some doc
  entry : s.load (c.pathFor j.key) = .ok (j.entry doc).pack
  decodes : CacheEntry.unpack? (j.entry doc).pack = some (j.entry doc)
  intact : j.Intact doc s

/-- A source with the key of a job on record is skipped. -/
theorem Recorded.isCached {w : World} (h : j.Recorded c doc w.store) {plan : GenerationPlan}
    (hcache : plan.cache = some c) (path : Text) :
    ((Generation.isCached plan path j.key : StateM World _).run w).1 = true :=
  Generation.isCached_of_intact hcache h.entry h.decodes h.intact

theorem Recorded.of_rewrites {new : Place → Text → Prop} (h : j.Recorded c doc s)
    (hrewrites : Rewrites new s s')
    (hentry : ∀ q, s.place (c.pathFor j.key) = .ok q → ∀ x, ¬ new q x)
    (hunits : ∀ d ∈ doc.types, ∀ q, s.place (j.unitPath doc d) = .ok q → ∀ x, ¬ new q x) :
    j.Recorded c doc s' where
  doc? := h.doc?
  entry := hrewrites.load h.entry hentry
  decodes := h.decodes
  intact d hd := hrewrites.load (h.intact d hd) (hunits d hd)

/-- A job writes no entry of another key. -/
theorem not_writes_entry (hplan : j'.plan.Proper) {key : Text} (hkey : j'.key ≠ key)
    (hq : EntryPlace key q) : ¬ j'.Writes s' q x := by
  rintro ⟨doc', hdoc', ⟨d', hd', hplace, -⟩ | ⟨c', -, hplace, -⟩⟩
  · exact hplan.not_entryPlace (readable_of_doc? hdoc') hd' hplace hq
  · exact hkey ((c'.place_pathFor hplace).key_eq hq)

/-- A job writes no unit of another name. -/
theorem not_writes_unit (hplan : j.plan.Proper) (hsame : j'.plan = j.plan)
    (hdoc : j.doc? = some doc)
    (hnames : ∀ doc', j'.doc? = some doc' → doc'.unitNames.Disjoint doc.unitNames)
    {d : DataType} (hd : d ∈ doc.types) (hdir : s'.workingDir = s.workingDir)
    (hq : s.place (j.unitPath doc d) = .ok q) : ¬ j'.Writes s' q x := by
  have hreadable := readable_of_doc? hdoc
  rintro ⟨doc', hdoc', ⟨d', hd', hplace, -⟩ | ⟨c', -, hplace, -⟩⟩
  · -- the two units would be in one place, so they would have one name
    have hreadable' := readable_of_doc? hdoc'
    have htarget := Store.eq_target_of_place hplace
    rw [Store.eq_target_of_place hq, Store.target_congr hdir] at htarget
    rw [unitPath, unitPath, hsame] at htarget
    have hname : doc'.qualifiedName d' = doc.qualifiedName d := by
      apply FileUnits.name_eq_of_target_begins (s := s) hplan.isDotLetters
        (FileUnits.isUnitName_qualifiedName hreadable' hd')
        (FileUnits.isUnitName_qualifiedName hreadable hd)
      show s.target (j.plan.units.unitPath doc' d') <+: s.target (j.plan.units.unitPath doc d)
      exact htarget ▸ List.prefix_refl _
    exact hnames doc' hdoc' (List.mem_map_of_mem hd') (hname ▸ List.mem_map_of_mem hd)
  · exact hplan.not_entryPlace hreadable hd hq (c'.place_pathFor hplace)

end Job

/-! ## The work on one source -/

namespace Generation

variable {g g' : Generation} {plan : GenerationPlan} {c : DiskCache} {path key : Text}
  {w w' : World} {j : Job} {doc : Doc}

/-- If nothing is warned of, what is to be remembered can be found in the cache. -/
theorem load_of_remember (hs : w.store.Numbered) (hcache : plan.cache = some c) {found : Written}
    (hrun : (remember plan path key found : StateM World _).run w = ((), w')) (hquiet : w'.Quiet) :
    w'.store.load (c.pathFor key) = .ok (entryOf plan path found).pack := by
  obtain ⟨failure, w₁, hput, -, hload⟩ := DiskCache.run_put hs c key (entryOf plan path found)
  unfold remember at hrun
  rw [hcache] at hrun
  dsimp only at hrun
  rw [run_bind hput] at hrun
  cases failure with
  | none =>
    cases hrun
    exact hload rfl
  | some e =>
    -- the failure would be the latest entry of the log
    obtain ⟨mode, hmode⟩ := hquiet.mode
    have hkept : w₁.logMode = some mode := by
      rw [← hmode, ← (Tame.log _).logMode w₁, hrun]
    rw [World.run_log_kept ⟨mode, hkept, by simp [LogMode.keeps]⟩] at hrun
    cases hrun
    exact absurd rfl (hquiet.logged _ List.mem_cons_self)

/-- What the work on a source leaves that was not skipped: nothing is written but what the job may
write, the units are in their files, and the entry is in the cache if nothing is warned of. -/
structure Leaves (j : Job) (c : DiskCache) (doc : Doc) (w w' : World) : Prop where
  doc? : j.doc? = some doc
  rewrites : Rewrites (j.Writes w'.store) w.store w'.store
  entry : w'.Quiet → w'.store.load (c.pathFor j.key) = .ok (j.entry doc).pack
  intact : j.Intact doc w'.store

/-- How the work on a source ends. It fails, or it is rejected with a report, or it is done: the
cache said that its files are intact and nothing was done, or its document was emitted. -/
theorem source_cases (hplan : plan.Proper) (hcache : plan.cache = some c) (hs : w.store.Numbered)
    (g : Generation) (path : Text) :
    (∃ e g' w', (g.source plan path : StateM World _).run w = ((.failed e, g'), w')) ∨
    (∃ g' w', (g.source plan path : StateM World _).run w = ((.rejected, g'), w') ∧
      (g.bag.size < g.bag.limit → g'.bag.hasErrors = true)) ∨
    ∃ bytes g' w', w.store.load path = .ok bytes ∧
      (g.source plan path : StateM World _).run w = ((.done, g'), w') ∧
      g'.bag = g.bag ∧ g'.files.size = g.files.size + 1 ∧
      ((((isCached plan path (Job.mk plan path (g.files.loaded path bytes).2).key :
          StateM World _).run w).1 = true ∧ w'.store = w.store) ∨
        ((isCached plan path (Job.mk plan path (g.files.loaded path bytes).2).key :
          StateM World _).run w).1 = false ∧
        ∃ doc, Leaves ⟨plan, path, (g.files.loaded path bytes).2⟩ c doc w w') := by
  rcases hbytes : w.store.load path with e | bytes
  · obtain ⟨timer, hrun⟩ := run_source_unread hbytes g plan
    exact .inl ⟨_, _, _, hrun⟩
  · obtain ⟨⟨cached, w₁⟩, hcached⟩ : ∃ r,
        (isCached plan path (Job.mk plan path (g.files.loaded path bytes).2).key :
          StateM World _).run w = r := ⟨_, rfl⟩
    have hstore : w₁.store = w.store := by
      have := keepsStore_isCached plan path (Job.mk plan path (g.files.loaded path bytes).2).key w
      rwa [hcached] at this
    have hsize := g.files.size_loaded path bytes
    cases cached with
    | true =>
      obtain ⟨timer, w₂, hrun, hsame⟩ := run_source_skipped hbytes hcached
      refine .inr (.inr ⟨bytes, _, w₂, rfl, hrun, rfl, hsize, .inl ⟨?_, hsame.trans hstore⟩⟩)
      rw [hcached]
    | false =>
      obtain ⟨timer, hrun⟩ := run_source_compile hbytes hcached
      cases hdoc : (Job.mk plan path (g.files.loaded path bytes).2).doc? with
      | none =>
        rcases Nat.lt_or_ge (g.files.loaded path bytes).2.content.length UInt32.size with
          hshort | hlong
        · obtain ⟨timer', bag, hcompile, hreport⟩ := run_compile_rejected hshort hdoc
            { g with timer, files := (g.files.loaded path bytes).1 } w₁
          exact .inr (.inl ⟨_, _, hrun.trans hcompile, hreport⟩)
        · obtain ⟨timer', hcompile⟩ := run_compile_long
            (j := ⟨plan, path, (g.files.loaded path bytes).2⟩) hlong
            { g with timer, files := (g.files.loaded path bytes).1 } w₁
          exact .inl ⟨_, _, _, hrun.trans hcompile⟩
      | some doc =>
        obtain ⟨timer', hcompile⟩ := run_compile_accepted hdoc
          { g with timer, files := (g.files.loaded path bytes).1 } w₁
        have hemits := emit_cases (w := w₁) hplan hdoc (hstore ▸ hs)
          { g with timer := timer', files := (g.files.loaded path bytes).1 }
        rcases hemits with ⟨e, timer₂, w', hemit, -⟩ |
          ⟨timer₂, found, w₂, w', hemit, hrewrites, hintact, hs₂, hfound, hremember⟩
        · exact .inl ⟨e, _, w', hrun.trans (hcompile.trans hemit)⟩
        · refine .inr (.inr ⟨bytes, _, w', rfl, hrun.trans (hcompile.trans hemit), rfl, hsize,
            .inr ⟨by rw [hcached], doc, hdoc, hstore ▸ hrewrites, fun hquiet => ?_, hintact⟩⟩)
          rw [← hfound c hcache]
          exact load_of_remember hs₂ hcache hremember hquiet

/-- A source that is rejected is reported while there is room. -/
theorem hasErrors_of_rejected (hplan : plan.Proper) (hcache : plan.cache = some c)
    (hs : w.store.Numbered) (hroom : g.bag.size < g.bag.limit)
    (hrun : (g.source plan path : StateM World _).run w = ((.rejected, g'), w')) :
    g'.bag.hasErrors = true := by
  rcases source_cases hplan hcache hs g path with
    ⟨e, g₁, w₁, hends⟩ | ⟨g₁, w₁, hends, hreport⟩ | ⟨bytes, g₁, w₁, -, hends, -⟩ <;>
      cases hrun.symm.trans hends
  exact hreport hroom

end Generation

end AdtCompiler
