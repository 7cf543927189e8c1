import AdtCompiler.Proofs.FileUnits
import AdtCompiler.Run.Options

/-!
# Documents emitted one after another

Documents of different sources may have units of one path, and then the file holds the one that was
written last. The emission of documents, one after another, is therefore known by the list of all
their units: a path holds the text that is listed last for it, and no other file is touched.

What an emission does to the files depends on nothing but the files. The log may differ.

## Contents

- `OnFiles`: computations for which only the files matter
- `Store.Publishes`: what is left when a list of units was written, and `Store.Publishes.append`
- `Session.emitAll`: the emission of documents, and `Session.publishes_emitAll`
-/

namespace AdtCompiler

open Store (Rewrites)

variable {α : Type}

/-! ## Computations on files -/

/-- A computation for which only the files matter: from worlds with the same files it returns the
same and leaves the same files. -/
def OnFiles (x : StateM World α) : Prop :=
  ∀ w w' : World, w.store = w'.store →
    (x.run w).1 = (x.run w').1 ∧ (x.run w).2.store = (x.run w').2.store

namespace OnFiles

theorem compositional : Compositional fun α => OnFiles (α := α) where
  pure _ _ _ h := ⟨rfl, h⟩
  bind {_ _ x g} hx hg w w' h := by
    obtain ⟨hresult, hstore⟩ := hx w w' h
    show ((g (x.run w).1).run (x.run w).2).1 = ((g (x.run w').1).run (x.run w').2).1 ∧
      ((g (x.run w).1).run (x.run w).2).2.store = ((g (x.run w').1).run (x.run w').2).2.store
    rw [← hresult]
    exact hg _ _ _ hstore

theorem log (entry : LogEntry) : OnFiles (Logger.log entry : StateM World Unit) := by
  intro w w' h
  obtain ⟨v, hrun, hstore⟩ := w.run_log entry
  obtain ⟨v', hrun', hstore'⟩ := w'.run_log entry
  rw [hrun, hrun']
  exact ⟨rfl, hstore.trans (h.trans hstore'.symm)⟩

theorem change (f : Store → Except FileError Store) : OnFiles (World.change f) := by
  intro w w' h
  rcases hf : f w.store with e | store
  · rw [World.run_change_error hf, World.run_change_error (h ▸ hf)]
    exact ⟨rfl, h⟩
  · rw [World.run_change_ok hf, World.run_change_ok (h ▸ hf)]
    exact ⟨rfl, rfl⟩

theorem status (path : Text) : OnFiles (Host.status path : StateM World _) := by
  intro w w' h
  exact ⟨congrArg (fun s : Store => s.status path) h, h⟩

theorem createTemp (dir start ending : Text) :
    OnFiles (Host.createTemp dir start ending : StateM World _) := by
  intro w w' h
  rcases hcreate : w.store.createTemp dir start ending with e | ⟨store, handle⟩
  · rw [World.run_createTemp_error hcreate, World.run_createTemp_error (h ▸ hcreate)]
    exact ⟨rfl, h⟩
  · rw [World.run_createTemp_ok hcreate, World.run_createTemp_ok (h ▸ hcreate)]
    exact ⟨rfl, rfl⟩

theorem writesUnits : Compositional.WritesUnits fun α => OnFiles (α := α) where
  toCompositional := compositional
  log := log
  status := status
  makeDir _ := change _
  createTemp := createTemp
  append _ _ := change _
  close _ := change _
  rename _ _ := change _
  remove _ := change _

/-- What the emission of a document does to the files depends on the files alone. -/
theorem emit (f : FileUnits) (doc : Doc) (backend : Backend) (version : Text) :
    OnFiles (doc.emit backend version f.factory) := writesUnits.emit f doc backend version

end OnFiles

/-! ## Lists of units -/

namespace Store

variable {units more : List (Text × Text)} {s s' s'' : Store} {path text : Text}

/-- A path leads below where another one leads. -/
def Below (s : Store) (path dir : Text) : Prop :=
  s.target dir <+: s.target path ∧ s.target path ≠ s.target dir

instance (s : Store) (path dir : Text) : Decidable (s.Below path dir) :=
  inferInstanceAs (Decidable (_ ∧ _))

theorem below_congr (h : s'.workingDir = s.workingDir) (path dir : Text) :
    s'.Below path dir ↔ s.Below path dir := by
  rw [Below, Below, target_congr h, target_congr h]

/-- What is left when units, each with its path and its text, were written one after another: a
path holds the text that is listed last for it, and no other file was rewritten. -/
structure Publishes (units : List (Text × Text)) (s s' : Store) : Prop where
  rewrites : Rewrites (fun q _ => ∃ x ∈ units, s'.place x.1 = .ok q) s s'
  loads : ∀ path text, units.reverse.lookup path = some text → s'.load path = .ok text

namespace Publishes

theorem nil (hs : s.Numbered) : Publishes [] s s := ⟨.refl hs, nofun⟩

/-- Lists of units may be written one after another if different paths lead to different places. -/
theorem append (h : Publishes units s s') (h' : Publishes more s' s'')
    (hapart : ∀ x ∈ units, ∀ y ∈ more, s''.target x.1 = s''.target y.1 → x.1 = y.1) :
    Publishes (units ++ more) s s'' where
  rewrites := by
    refine (h.rewrites.mono ?_).trans (h'.rewrites.mono ?_)
    · rintro q - ⟨x, hx, hq⟩
      exact ⟨x, List.mem_append_left more hx, h'.rewrites.place hq⟩
    · rintro q - ⟨x, hx, hq⟩
      exact ⟨x, List.mem_append_right units hx, hq⟩
  loads path text hlast := by
    rw [List.reverse_append, List.lookup_append] at hlast
    cases hmore : more.reverse.lookup path with
    | some later =>
      rw [hmore] at hlast
      cases hlast
      exact h'.loads path text hmore
    | none =>
      rw [hmore, Option.none_or] at hlast
      obtain ⟨q, hq, hheld⟩ := load_eq_ok.mp (h.loads path text hlast)
      have hq' := h'.rewrites.place hq
      refine load_eq_ok.mpr ⟨q, hq', h'.rewrites.held_of_not_new hheld ?_⟩
      -- A later unit at the place would have the path, which is not among them.
      rintro - ⟨y, hy, hplace⟩
      have hx : (path, text) ∈ units := List.mem_reverse.mp (mem_of_lookup hlast)
      have hpath : path = y.1 := hapart (path, text) hx y hy
        ((eq_target_of_place hq').symm.trans (eq_target_of_place hplace))
      have hne := List.lookup_eq_none_iff.mp hmore y (List.mem_reverse.mpr hy)
      simp [hpath] at hne

/-- Files other than those of the units are as they were. -/
theorem held_iff (h : Publishes units s s') {q : Place} (hq : ∀ x ∈ units, s'.place x.1 ≠ .ok q) :
    s'.held q = some (.file text) ↔ s.held q = some (.file text) := by
  have hother : ∀ t : Text, ¬ ∃ x ∈ units, s'.place x.1 = .ok q := by
    rintro - ⟨x, hx, hplace⟩
    exact hq x hx hplace
  constructor
  · intro hheld
    exact (h.rewrites.file q text hheld).resolve_right (hother text)
  · intro hheld
    exact h.rewrites.held_of_not_new hheld hother

/-- A file that can be read, and to which no unit leads, is read as before. -/
theorem load_eq_ok (h : Publishes units s s') (hload : s.load path = .ok text)
    (hother : ∀ x ∈ units, s.target x.1 ≠ s.target path) : s'.load path = .ok text := by
  obtain ⟨q, hq, hheld⟩ := Store.load_eq_ok.mp hload
  refine Store.load_eq_ok.mpr ⟨q, h.rewrites.place hq, (h.held_iff ?_).mpr hheld⟩
  intro x hx hplace
  apply hother x hx
  rw [← target_congr h.rewrites.workingDir x.1, ← eq_target_of_place hplace, eq_target_of_place hq]

end Publishes

end Store

open Store (Publishes)

/-! ## Emission of documents -/

namespace Session

variable {session : Session} {f : FileUnits} {s s' : Store} {doc : Doc} {docs : List Doc}
  {x : Text × Text}

/-- The units of documents, in order, each with its path and its text. -/
def unitsOf (session : Session) (f : FileUnits) (docs : List Doc) : List (Text × Text) :=
  docs.flatMap fun doc => doc.types.map fun d =>
    (f.unitPath doc d, doc.unitText session.backend session.options.versionText d)

/-- Emits documents one after another. Gives the files that are left, if every emission ends
well. -/
def emitAll (session : Session) (f : FileUnits) : Store → List Doc → Option Store
  | s, [] => some s
  | s, doc :: rest =>
    match (doc.emit session.backend session.options.versionText f.factory :
        StateM World EmitEnd).run { store := s } with
    | (.done, w) => emitAll session f w.store rest
    | _ => none

/-- A document that was read and has no clashes. -/
def Accepts (session : Session) (doc : Doc) : Prop :=
  doc.Readable session.backend.wordTable ∧ doc.NamesApart

theorem unitsOf_cons (session : Session) (f : FileUnits) (doc : Doc) (docs : List Doc) :
    session.unitsOf f (doc :: docs) = session.unitsOf f [doc] ++ session.unitsOf f docs := by
  simp [unitsOf]

theorem mem_unitsOf (h : x ∈ session.unitsOf f docs) : ∃ doc ∈ docs, ∃ d ∈ doc.types,
    x = (f.unitPath doc d, doc.unitText session.backend session.options.versionText d) := by
  obtain ⟨doc, hdoc, hx⟩ := List.mem_flatMap.mp h
  obtain ⟨d, hd, rfl⟩ := List.mem_map.mp hx
  exact ⟨doc, hdoc, d, hd, rfl⟩

/-- Units are below the directory for units. -/
theorem below_of_mem_unitsOf (hf : FileUnits.Extension f.extension)
    (hdocs : ∀ doc ∈ docs, session.Accepts doc) (h : x ∈ session.unitsOf f docs) (s : Store) :
    s.Below x.1 f.dir := by
  obtain ⟨doc, hdoc, d, hd, rfl⟩ := mem_unitsOf h
  obtain ⟨before, -, htarget⟩ := FileUnits.target_unitPath hf (hdocs doc hdoc).1 hd s
  rw [Store.Below, htarget]
  exact ⟨List.prefix_append _ _, by simp⟩

/-- Files that are not below the directory for units are read as before. -/
theorem load_eq_ok_of_publishes (hf : FileUnits.Extension f.extension)
    (hdocs : ∀ doc ∈ docs, session.Accepts doc) (h : Publishes (session.unitsOf f docs) s s')
    {path text : Text} (hload : s.load path = .ok text) (hbelow : ¬ s.Below path f.dir) :
    s'.load path = .ok text := by
  apply h.load_eq_ok hload
  intro x hx htarget
  -- A unit that leads to the path would show that the path is below the directory.
  have hunit := below_of_mem_unitsOf hf hdocs hx s
  rw [Store.Below, htarget] at hunit
  exact hbelow hunit

/-- The emission of a document that ends well publishes its units. -/
theorem publishes_emit (hf : FileUnits.Extension f.extension) (hdoc : session.Accepts doc)
    {w w' : World} (hs : w.store.Numbered)
    (h : (doc.emit session.backend session.options.versionText f.factory : StateM World _).run w =
      (.done, w')) : Publishes (session.unitsOf f [doc]) w.store w'.store := by
  obtain ⟨ending, v, hrun, hrewrites, hloads⟩ := Doc.run_emit hf hdoc.1 hdoc.2 hs session.backend
    session.options.versionText
  cases h.symm.trans hrun
  refine ⟨hrewrites.mono ?_, fun path text hlast => ?_⟩
  · rintro q x ⟨d, hd, hplace, -⟩
    exact ⟨_, List.mem_flatMap.mpr ⟨doc, List.mem_singleton_self doc, List.mem_map_of_mem hd⟩,
      hplace⟩
  · obtain ⟨doc', hdoc', d, hd, heq⟩ :=
      mem_unitsOf (List.mem_reverse.mp (Store.mem_of_lookup hlast))
    cases List.mem_singleton.mp hdoc'
    cases heq
    exact hloads rfl d hd

/-- The emission of the first of several documents, from any world with the files. -/
theorem run_emit_of_emitAll {w : World} (h : session.emitAll f w.store (doc :: docs) = some s') :
    ∃ w', (doc.emit session.backend session.options.versionText f.factory :
        StateM World _).run w = (.done, w') ∧ session.emitAll f w'.store docs = some s' := by
  obtain ⟨⟨ending, w'⟩, hrun⟩ : ∃ r, (doc.emit session.backend session.options.versionText
    f.factory : StateM World _).run w = r := ⟨_, rfl⟩
  -- The log of the world has no part in how the emission ends.
  obtain ⟨hending, hstore⟩ := OnFiles.emit f doc session.backend
    session.options.versionText w { store := w.store } rfl
  rw [hrun] at hending hstore
  rw [emitAll] at h
  split at h
  · rename_i quiet hquiet
    rw [hquiet] at hending hstore
    cases hending
    exact ⟨w', hrun, hstore ▸ h⟩
  · cases h

/-- Documents whose emissions all end well publish their units. -/
theorem publishes_emitAll (hf : FileUnits.Extension f.extension)
    (hdocs : ∀ doc ∈ docs, session.Accepts doc) (hs : s.Numbered)
    (h : session.emitAll f s docs = some s') : Publishes (session.unitsOf f docs) s s' := by
  induction docs generalizing s with
  | nil =>
    cases h
    exact .nil hs
  | cons doc docs ih =>
    obtain ⟨w, hrun, hrest⟩ := run_emit_of_emitAll (w := { store := s }) h
    obtain ⟨hdoc, hdocs⟩ := List.forall_mem_cons.mp hdocs
    have hfirst := publishes_emit hf hdoc hs hrun
    rw [unitsOf_cons]
    refine hfirst.append (ih hdocs hfirst.rewrites.numbered hrest) ?_
    -- Units of all documents are told apart by their places.
    intro x hx y hy heq
    obtain ⟨doc₁, hdoc₁, d, hd, rfl⟩ := mem_unitsOf hx
    obtain ⟨doc₂, hdoc₂, d₂, hd₂, rfl⟩ := mem_unitsOf hy
    cases List.mem_singleton.mp hdoc₁
    exact FileUnits.unitPath_eq_of_target hf hdoc.1 hd (hdocs doc₂ hdoc₂).1 hd₂ heq

end Session

end AdtCompiler
