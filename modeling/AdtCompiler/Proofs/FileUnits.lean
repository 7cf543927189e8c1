import AdtCompiler.Proofs.Clash
import AdtCompiler.Proofs.Composition
import AdtCompiler.Proofs.Readable
import AdtCompiler.Proofs.Resolution
import AdtCompiler.Proofs.Store
import AdtCompiler.Proofs.TargetLog
import AdtCompiler.Target.File

/-!
# Units in files

In the model of a system, the only failures of the file system are those of a store. A target that
was created can be written to, and it can be removed. What is left of an emission is therefore
known: apart from new directories, the only places that differ are those of the units, and where
one differs it holds the whole text of the unit.

## Contents

- `KeepsFiles`: computations that change no file
- `FileTarget.run_close`, `FileTarget.run_abort`: how a target is released
- `FileUnits.pathFor_eq_ofElements`: the elements of the path of a unit
- `Emit.run_emitUnits`: what the emission of a document leaves in the files
-/

namespace AdtCompiler

open Store (Rewrites Pending Settled)

variable {w : World} {α : Type}

/-! ## Operations of the model -/

namespace World

theorem run_change_ok {f : Store → Except FileError Store} {store : Store}
    (h : f w.store = .ok store) : (change f).run w = (.ok (), { w with store }) := by
  refine (run_bind (s := w) rfl _).trans ?_
  rw [h]
  rfl

theorem run_change_error {f : Store → Except FileError Store} {e : FileError}
    (h : f w.store = .error e) : (change f).run w = (.error e, w) := by
  refine (run_bind (s := w) rfl _).trans ?_
  rw [h]
  rfl

theorem run_log (w : World) (entry : LogEntry) :
    ∃ w', (Logger.log entry : StateM World Unit).run w = ((), w') ∧ w'.store = w.store := by
  refine ⟨_, rfl, ?_⟩
  dsimp only
  split
  · split <;> rfl
  · rfl

end World

/-- A computation that changes no file. It may make directories. -/
def KeepsFiles (x : StateM World α) : Prop :=
  ∀ w : World, w.store.Numbered → Rewrites (fun _ _ => False) w.store (x.run w).2.store

namespace KeepsFiles

theorem compositional : Compositional fun α => KeepsFiles (α := α) where
  pure _ _ hs := .refl hs
  bind hx hg w hs := by
    have hfirst := hx w hs
    exact hfirst.trans (hg _ _ hfirst.numbered)

theorem makeDir (path : Text) : KeepsFiles (Host.makeDir path : StateM World _) := by
  intro w hs
  rcases h : w.store.makeDir path with e | store
  · rw [show (Host.makeDir path : StateM World _).run w = _ from World.run_change_error h]
    exact .refl hs
  · rw [show (Host.makeDir path : StateM World _).run w = _ from World.run_change_ok h]
    exact Store.rewrites_makeDir hs h

/-- Making directories changes no file. -/
theorem makeDirs (path : Text) : KeepsFiles (AdtCompiler.makeDirs path) :=
  compositional.makeDirs (fun _ _ hs => .refl hs) makeDir path

end KeepsFiles

/-! ## Targets -/

namespace FileTarget

variable {t : FileTarget} {s : Store} {p : Place} {text : Text}

/-- A target that is being written to: a text is in its file, which is open, and without which the
store would be another one. -/
structure Writing (t : FileTarget) (s : Store) (p : Place) (text : Text) (s' : Store) : Prop where
  pending : Pending s t.temp p text s'
  numbered : s.Numbered
  opened : s'.opened.lookup t.temp.id = some t.temp.id
  closed_eq : t.closed = false
  failure_eq : t.failure = none
  apart : ∀ (s : Store) q, s.place t.path = .ok q → q ≠ p

/-- All pieces are written. -/
theorem run_writePieces (h : Writing t s p text w.store) (pieces : List Text) :
    ∃ store, (writePieces write t pieces : StateM World _).run w = ((none, t), { w with store }) ∧
      Writing t s p (text ++ pieces.flatten) store := by
  induction pieces generalizing w text with
  | nil => exact ⟨w.store, rfl, by simpa using h⟩
  | cons piece rest ih =>
    obtain ⟨store, happend, hpending, hopened⟩ := h.pending.append h.opened piece
    obtain ⟨store', hrest, hwriting⟩ :=
      ih (w := { w with store }) { h with pending := hpending, opened := hopened }
    refine ⟨store', ?_, by simpa using hwriting⟩
    have hwrite : (t.write piece : StateM World _).run w = ((none, t), { w with store }) :=
      run_bind (World.run_change_ok happend) _
    exact (run_bind hwrite _).trans hrest

/-- An aborted target leaves nothing. -/
theorem run_abort (h : Writing t s p text w.store) :
    ∃ store, (t.abort : StateM World _).run w =
        ((none, { t with closed := true }), { w with store }) ∧
      Rewrites (fun _ _ => False) s store := by
  obtain ⟨closed, hclose, hpending, -⟩ := h.pending.close h.opened
  obtain ⟨store, hremove, hrewrites⟩ := hpending.remove h.numbered
  refine ⟨store, ?_, hrewrites⟩
  unfold abort
  simp only [h.closed_eq]
  refine (run_bind (World.run_change_ok hclose) _).trans ?_
  exact run_bind (World.run_change_ok hremove) _

/-- A closed target leaves its text at its path, or it fails and leaves nothing. -/
theorem run_close (h : Writing t s p text w.store) :
    ∃ failure store, (t.close : StateM World _).run w =
        ((failure, { t with closed := true }), { w with store }) ∧
      Rewrites (fun q x => store.place t.path = .ok q ∧ x = text) s store ∧
      (failure = none → store.load t.path = .ok text) := by
  obtain ⟨closed, hclose, hpending, -⟩ := h.pending.close h.opened
  unfold close
  simp only [h.closed_eq, h.failure_eq]
  rcases hpending.rename h.numbered (h.apart closed) with
    ⟨e, hrename⟩ | ⟨store, hrename, hthere, hrewrites⟩
  · -- The final name could not be given: the temporary file is removed.
    obtain ⟨store, hremove, hrewrites⟩ := hpending.remove h.numbered
    refine ⟨some (.ofFile (.publishing t.path) e), store, ?_, hrewrites.mono nofun, nofun⟩
    refine (run_bind (World.run_change_ok hclose) _).trans ?_
    refine (run_bind (World.run_change_error hrename) _).trans ?_
    exact run_bind (World.run_change_ok hremove) _
  · refine ⟨none, store, ?_, hrewrites, fun _ => Store.load_eq_ok.mpr hthere⟩
    refine (run_bind (World.run_change_ok hclose) _).trans ?_
    exact run_bind (World.run_change_ok hrename) _

end FileTarget

open FileTarget (Writing)

theorem World.run_createTemp_ok {w : World} {dir start ending : Text} {store : Store} {h : Handle}
    (hcreate : w.store.createTemp dir start ending = .ok (store, h)) :
    (Host.createTemp dir start ending : StateM World _).run w = (.ok h, { w with store }) := by
  refine (run_bind (s := w) rfl _).trans ?_
  rw [hcreate]
  rfl

theorem World.run_createTemp_error {w : World} {dir start ending : Text} {e : FileError}
    (hcreate : w.store.createTemp dir start ending = .error e) :
    (Host.createTemp dir start ending : StateM World _).run w = (.error e, w) := by
  refine (run_bind (s := w) rfl _).trans ?_
  rw [hcreate]
  rfl

/-- A new file is pending and open, at a place that no settled path has. -/
theorem World.run_createTemp (w : World) (dir start : Text) (hlength : 2 ≤ start.length) :
    ∃ created w', (Host.createTemp dir start [] : StateM World _).run w = (created, w') ∧
      match created with
      | .error _ => w' = w
      | .ok h => w'.store.opened.lookup h.id = some h.id ∧
        ∃ p, Pending w.store h p [] w'.store ∧ ∀ q, Settled q → q ≠ p := by
  rcases hcreate : w.store.createTemp dir start [] with e | ⟨store, h⟩
  · exact ⟨.error e, w, run_createTemp_error hcreate, rfl⟩
  · obtain ⟨above, hpending, hopened⟩ := Pending.of_createTemp hlength hcreate
    exact ⟨.ok h, { w with store }, run_createTemp_ok hcreate, hopened, _, hpending,
      fun q hq => hq.ne_newName⟩

namespace FileUnits

variable {f : FileUnits} {name : Text}

/-- A target is created in a new file, or nothing but directories is made. -/
theorem run_create (hs : w.store.Numbered)
    (hsettled : ∀ (s : Store) q, s.place (f.pathFor name) = .ok q → Settled q) :
    ∃ created w', (f.create name : StateM World _).run w = (created, w') ∧
      match created with
      | .error _ => Rewrites (fun _ _ => False) w.store w'.store
      | .ok t => t.path = f.pathFor name ∧
        ∃ s p, Rewrites (fun _ _ => False) w.store s ∧ Writing t s p [] w'.store := by
  obtain ⟨⟨made, w₁⟩, hmake⟩ :
      ∃ r, (makeDirs (Path.parent (f.pathFor name)) : StateM World _).run w = r := ⟨_, rfl⟩
  have hdirs := KeepsFiles.makeDirs (Path.parent (f.pathFor name)) w hs
  rw [hmake] at hdirs
  cases made with
  | error e => exact ⟨_, w₁, run_bind hmake _, hdirs⟩
  | ok _ =>
    -- The new name starts with two bytes or more, so it is longer than the special names.
    have hlength : 2 ≤ ("." ++ Path.base (f.pathFor name) ++ ".tmp-" : Text).length := by
      have : (".tmp-" : Text).length = 5 := by decide
      simp only [List.length_append]
      omega
    obtain ⟨created, w₂, hcreate, htemp⟩ :=
      w₁.run_createTemp (Path.parent (f.pathFor name)) _ hlength
    cases created with
    | error e =>
      exact ⟨_, w₁, (run_bind hmake _).trans (htemp ▸ run_bind hcreate _), hdirs⟩
    | ok temp =>
      -- The path leads to a settled place, and no temporary file is at one.
      obtain ⟨hopened, p, hpending, hne⟩ := htemp
      refine ⟨_, w₂, (run_bind hmake _).trans (run_bind hcreate _), rfl, w₁.store, p, hdirs, ?_⟩
      exact ⟨hpending, hdirs.numbered, hopened, rfl, rfl, fun s q hq => hne q (hsettled s q hq)⟩

end FileUnits

namespace Emit

variable {f : FileUnits} {t : FileTarget} {s : Store} {p : Place} {text : Text}

/-- A target that is released leaves its text at its path, or nothing. -/
theorem run_releaseUnit (h : Writing t s p text w.store) (ending : EmitEnd) :
    ∃ ending' w', (releaseUnit f.factory t ending : StateM World _).run w = (ending', w') ∧
      Rewrites (fun q x => w'.store.place t.path = .ok q ∧ x = text) s w'.store ∧
      (ending' = .done → w'.store.load t.path = .ok text) := by
  -- A unit that is complete is closed, any other is aborted.
  by_cases hending : ending = .done
  · obtain ⟨failure, store, hclose, hrewrites, hthere⟩ := FileTarget.run_close h
    cases failure with
    | none =>
      refine ⟨.done, { w with store }, ?_, hrewrites, fun _ => hthere rfl⟩
      unfold releaseUnit
      rw [if_pos hending]
      exact run_bind hclose _
    | some failure =>
      refine ⟨.failed (failure.during (.closing t.info)), { w with store }, ?_, hrewrites, nofun⟩
      unfold releaseUnit
      rw [if_pos hending]
      exact run_bind hclose _
  · obtain ⟨store, habort, hrewrites⟩ := FileTarget.run_abort h
    refine ⟨ending, { w with store }, ?_, hrewrites.mono nofun, fun h => absurd h hending⟩
    unfold releaseUnit
    rw [if_neg hending]
    exact run_bind habort _

/-- The emission of a unit leaves its text at its path, or nothing. -/
theorem run_emitUnit (h : Writing t s p [] w.store) (name : Text) (rendering : Rendering) :
    ∃ ending w', (emitUnit f.factory t name rendering : StateM World _).run w = (ending, w') ∧
      Rewrites (fun q x => w'.store.place t.path = .ok q ∧ x = rendering.pieces.flatten)
        s w'.store ∧
      (ending = .done → w'.store.load t.path = .ok rendering.pieces.flatten) := by
  obtain ⟨w₁, hlog, hstore⟩ := w.run_log (unitEntry t.info)
  rw [← hstore] at h
  obtain ⟨store, hwrites, hwriting⟩ := FileTarget.run_writePieces h rendering.pieces
  obtain ⟨ending, hwrite⟩ : ∃ ending,
      (writeUnit f.factory t name rendering : StateM World _).run w₁ =
        ((ending, t), { w₁ with store }) := by
    cases hend : rendering.ending <;>
      exact ⟨_, (run_bind hwrites _).trans (by rw [hend]; rfl)⟩
  obtain ⟨ending', w', hrelease, hrewrites, hthere⟩ :=
    run_releaseUnit (f := f) (w := { w₁ with store }) hwriting ending
  exact ⟨ending', w', (run_bind hlog _).trans ((run_bind hwrite _).trans hrelease), hrewrites,
    hthere⟩

theorem EmitEnd.orElse_eq_done {first later : EmitEnd} :
    EmitEnd.orElse first later = .done ↔ first = .done ∧ later = .done := by
  cases first <;> simp [EmitEnd.orElse]

end Emit

/-- The text of the unit of a data type. -/
def Doc.unitText (doc : Doc) (backend : Backend) (version : Text) (d : DataType) : Text :=
  (backend.render doc d (backend.header doc version (doc.provenance version))).pieces.flatten

/-- A Java unit tells from which source it was generated. -/
theorem Doc.source_eq_of_unitText {doc : Doc} {d : DataType} {source version : Text}
    (h : doc.unitText .java version d = { doc with source }.unitText .java version d) :
    doc.source = source := by
  simp only [Doc.unitText, Backend.java, Java.header, Doc.provenance, List.flatten_cons,
    List.append_assoc, List.append_cancel_left_eq] at h
  exact List.append_cancel_right h

/-- The path of a unit. -/
def FileUnits.unitPath (f : FileUnits) (doc : Doc) (d : DataType) : Text :=
  f.pathFor (doc.qualifiedName d)

/-! ## Paths of units -/

theorem dot_not_mem_of_isIdentifier {t : Text} (h : isIdentifier t = true) : 46 ∉ t := by
  intro hmem
  have hdot := continues_of_isIdentifier h _ (Text.scalar_mem_runes (by decide) hmem)
  exact absurd hdot (by decide)

/-- An identifier stands for itself in a path, also with something behind it. -/
theorem Path.plain_append {name ending : Text} (h : isIdentifier name = true)
    (hending : slash ∉ ending) : Plain (name ++ ending) := by
  have hname : slash ∉ name := fun hmem =>
    absurd (isWordByte_of_isIdentifier h slash hmem) (by decide)
  have hdot := dot_not_mem_of_isIdentifier h
  obtain ⟨b, t, rfl⟩ := List.exists_cons_of_ne_nil (ne_nil_of_isIdentifier h)
  refine ⟨by simp, by simp_all, fun h => ?_, fun h => ?_⟩
  · exact hdot (by simp [(List.cons.inj h).1])
  · exact hdot (by simp [(List.cons.inj h).1])

/-- The pieces between dots are the elements of the path that is made of them. -/
theorem Text.splitOn_map_dot {t : Text} (h : Path.slash ∉ t) :
    Text.splitOn Path.slash (t.map fun b => if b = Text.byte '.' then Path.slash else b) =
      t.splitOn 46 := by
  simp only [show Text.byte '.' = 46 from rfl]
  induction t with
  | nil => rfl
  | cons b t ih =>
    simp only [List.mem_cons, not_or] at h
    by_cases hb : b = 46
    · simp [Text.splitOn, hb, ih h.2]
    · simp [Text.splitOn, hb, Ne.symm h.1, ih h.2]

/-- A text is an identifier or a dotted one if all pieces between its dots are identifiers. -/
theorem forall_isIdentifier_splitOn_iff {name : Text} :
    (∀ piece ∈ name.splitOn 46, isIdentifier piece = true) ↔
      isIdentifier name = true ∨ isDottedIdentifier name = true := by
  constructor
  · intro h
    -- Without a dot there is one piece, the text itself. With one there are two at least.
    by_cases hdot : 46 ∈ name
    · obtain ⟨front, rest, rfl⟩ := List.append_of_mem hdot
      have hlength : 2 ≤ (Text.splitOn 46 (front ++ 46 :: rest)).length := by
        have hne (t : Text) : 0 < (t.splitOn 46).length := by
          rw [Text.splitOn_eq]
          exact List.length_pos_iff.mpr (List.splitOn_ne_nil _ _)
        rw [Text.splitOn_append_sep, List.length_append]
        have := hne front
        have := hne rest
        omega
      right
      simp only [isDottedIdentifier, Bool.and_eq_true, decide_eq_true_eq, List.all_eq_true]
      exact ⟨hlength, h⟩
    · exact .inl (h name (by simp [Text.splitOn_of_not_mem hdot]))
  · rintro (hplain | hdotted)
    · simp [Text.splitOn_of_not_mem (dot_not_mem_of_isIdentifier hplain), hplain]
    · simp only [isDottedIdentifier, Bool.and_eq_true, List.all_eq_true] at hdotted
      exact hdotted.2

/-- The name of a unit is made of identifiers, with the name of the data type at its end. -/
theorem Doc.exists_splitOn_qualifiedName {table : WordTable} {doc : Doc} {d : DataType}
    (h : doc.Readable table) (hd : d ∈ doc.types) :
    ∃ before, (doc.qualifiedName d).splitOn 46 = before ++ [d.name] ∧
      ∀ piece ∈ before ++ [d.name], isIdentifier piece = true := by
  have hname := (h.types d hd).name.identifier
  have hlast : d.name.splitOn 46 = [d.name] :=
    Text.splitOn_of_not_mem (dot_not_mem_of_isIdentifier hname)
  unfold qualifiedName
  rcases h.package with hnone | hpackage
  · exact ⟨[], by simp [hnone, hlast], by simp [hname]⟩
  · refine ⟨doc.package.splitOn 46, ?_, ?_⟩
    · rw [if_neg (by simp [hpackage.ne_nil]), ← hlast, List.append_assoc]
      exact Text.splitOn_append_sep 46 doc.package d.name
    · simp only [List.forall_mem_append, List.forall_mem_singleton]
      exact ⟨forall_isIdentifier_splitOn_iff.mpr hpackage.identifier, hname⟩

namespace FileUnits

/-- An extension that ends with no digit, and so tells units from new files. -/
structure Extension (extension : Text) : Prop where
  not_mem : Path.slash ∉ extension
  last : ∃ front b, extension = front ++ [b] ∧ Text.isDigit b = false

section Pieces

variable {name last : Text} {before : List Text} (hsplit : name.splitOn 46 = before ++ [last])
  (h : ∀ piece ∈ before ++ [last], isIdentifier piece = true)

include h in
/-- The names under which a unit is found stand for themselves. -/
theorem plain_pieces {extension : Text} (hslash : Path.slash ∉ extension) :
    ∀ piece ∈ before ++ [last ++ extension], Path.Plain piece := by
  simp only [List.forall_mem_append, List.forall_mem_singleton] at h ⊢
  refine ⟨fun piece hpiece => ?_, Path.plain_append h.2 hslash⟩
  exact List.append_nil piece ▸ Path.plain_append (h.1 piece hpiece) List.not_mem_nil

include hsplit h in
/-- The file of a unit has the elements of the directory for units and then the pieces of the
unit's name, with the extension behind the last. -/
theorem pathFor_eq_ofElements (f : FileUnits) :
    f.pathFor name = Path.ofElements (Path.isAbsolute f.dir)
      (Path.elements f.dir ++ (before ++ [last ++ f.extension])) := by
  have hslash : Path.slash ∉ name := by
    intro hmem
    rcases Text.mem_splitOn 46 hmem with hdot | ⟨piece, hpiece, hmem⟩
    · exact absurd hdot (by decide)
    · exact absurd (isWordByte_of_isIdentifier (h piece (hsplit ▸ hpiece)) _ hmem) (by decide)
  have hplain : ∀ piece ∈ before ++ [last], Path.Plain piece := by
    simpa using plain_pieces h List.not_mem_nil
  exact Path.join_append_eq_ofElements f.dir ((Text.splitOn_map_dot hslash).trans hsplit) hplain _

end Pieces

variable {f : FileUnits} {table : WordTable} {doc : Doc} {d d' : DataType} {s : Store} {q : Place}

/-- A unit is below the directory for units, under the names that its own name is made of. -/
theorem target_unitPath (hf : Extension f.extension) (h : doc.Readable table) (hd : d ∈ doc.types)
    (s : Store) : ∃ before, (doc.qualifiedName d).splitOn 46 = before ++ [d.name] ∧
      s.target (f.unitPath doc d) = s.target f.dir ++ (before ++ [d.name ++ f.extension]) := by
  obtain ⟨before, hsplit, hpieces⟩ := doc.exists_splitOn_qualifiedName h hd
  refine ⟨before, hsplit, ?_⟩
  rw [unitPath, f.pathFor_eq_ofElements hsplit hpieces]
  exact s.target_ofElements f.dir (plain_pieces hpieces hf.not_mem)

/-- The place of a unit has the name of the data type at its end. -/
theorem place_unitPath (hf : Extension f.extension) (h : doc.Readable table) (hd : d ∈ doc.types)
    (hq : s.place (f.unitPath doc d) = .ok q) : ∃ above, q = above ++ [d.name ++ f.extension] := by
  obtain ⟨before, -, htarget⟩ := target_unitPath hf h hd s
  refine ⟨s.target f.dir ++ before, ?_⟩
  rw [Store.eq_target_of_place hq, htarget, List.append_assoc]

/-- Units that lead to one place have one path. -/
theorem unitPath_eq_of_target {table' : WordTable} {doc' : Doc} (hf : Extension f.extension)
    (h : doc.Readable table) (hd : d ∈ doc.types) (h' : doc'.Readable table')
    (hd' : d' ∈ doc'.types) (heq : s.target (f.unitPath doc d) = s.target (f.unitPath doc' d')) :
    f.unitPath doc d = f.unitPath doc' d' := by
  obtain ⟨before, hsplit, htarget⟩ := target_unitPath hf h hd s
  obtain ⟨before', hsplit', htarget'⟩ := target_unitPath hf h' hd' s
  rw [htarget, htarget', List.append_cancel_left_eq] at heq
  have hbefore : before = before' := List.append_inj_left' heq rfl
  have hname : d.name = d'.name := by simpa using List.append_inj_right' heq rfl
  have hnames : doc.qualifiedName d = doc'.qualifiedName d' := by
    refine Text.splitOn_injective 46 ?_
    rw [hsplit, hsplit', hbefore, hname]
  rw [unitPath, unitPath, hnames]

theorem settled_of_place (hf : Extension f.extension) (h : doc.Readable table)
    (hd : d ∈ doc.types) (hq : s.place (f.unitPath doc d) = .ok q) : Settled q := by
  obtain ⟨above, rfl⟩ := place_unitPath hf h hd hq
  obtain ⟨front, b, hext, hb⟩ := hf.last
  exact ⟨above, d.name ++ front, b, by simp [hext], hb⟩

/-- Units of different names have different places. -/
theorem name_eq_of_place (hf : Extension f.extension) (h : doc.Readable table)
    (hd : d ∈ doc.types) (hd' : d' ∈ doc.types) (hq : s.place (f.unitPath doc d) = .ok q)
    (hq' : s.place (f.unitPath doc d') = .ok q) : d.name = d'.name := by
  obtain ⟨above, rfl⟩ := place_unitPath hf h hd hq
  obtain ⟨above', heq⟩ := place_unitPath hf h hd' hq'
  have hlast := List.append_inj_right' heq rfl
  simpa using hlast

end FileUnits

namespace Emit

variable {f : FileUnits} {doc : Doc}

/-- The emission of units changes nothing but the files of the units, and where it succeeds, every
file holds the text of its unit. -/
theorem run_emitUnits (backend : Backend) (version : Text) {types : List DataType}
    (hsettled : ∀ d ∈ types, ∀ (s : Store) q, s.place (f.unitPath doc d) = .ok q → Settled q)
    (hapart : types.Pairwise fun d d' => ∀ (s : Store) q, s.place (f.unitPath doc d) = .ok q →
      s.place (f.unitPath doc d') ≠ .ok q)
    (hs : w.store.Numbered) (first : EmitEnd) :
    ∃ ending w', (emitUnits backend f.factory doc
        (backend.header doc version (doc.provenance version)) first types : StateM World _).run w =
          (ending, w') ∧
      Rewrites (fun q x => ∃ d ∈ types, w'.store.place (f.unitPath doc d) = .ok q ∧
        x = doc.unitText backend version d) w.store w'.store ∧
      (ending = .done → first = .done ∧ ∀ d ∈ types,
        w'.store.load (f.unitPath doc d) = .ok (doc.unitText backend version d)) := by
  induction types generalizing w first with
  | nil => exact ⟨first, w, rfl, .refl hs, fun h => ⟨h, nofun⟩⟩
  | cons d rest ih =>
    -- One unit is created, written and released before the next one, so the rest starts from
    -- the files that it leaves.
    simp only [List.forall_mem_cons] at hsettled
    simp only [List.pairwise_cons] at hapart
    obtain ⟨created, w₁, hcreate, hcreated⟩ := FileUnits.run_create hs hsettled.1
    cases created with
    | error failure =>
      refine ⟨_, w₁, run_bind hcreate _, hcreated.mono nofun, fun h => ?_⟩
      exact absurd (EmitEnd.orElse_eq_done.mp h).2 nofun
    | ok t =>
      obtain ⟨hpath, s, p, hdirs, hwriting⟩ := hcreated
      obtain ⟨ending, w₂, hunit, hrewrites, hthere⟩ :=
        run_emitUnit (f := f) hwriting (doc.qualifiedName d)
          (backend.render doc d (backend.header doc version (doc.provenance version)))
      rw [hpath] at hrewrites hthere
      have hfirst : Rewrites (fun q x => w₂.store.place (f.unitPath doc d) = .ok q ∧
          x = doc.unitText backend version d) w.store w₂.store :=
        (hdirs.mono nofun).trans hrewrites
      by_cases hcrashed : ending = .crashed
      · refine ⟨.crashed, w₂, (run_bind hcreate _).trans ((run_bind hunit _).trans ?_), ?_, nofun⟩
        · rw [if_pos hcrashed]
          rfl
        · exact hfirst.mono fun q x hx => ⟨d, List.mem_cons_self, hx⟩
      · obtain ⟨ending', w', hrest, hrewrites', hdone⟩ :=
          ih hsettled.2 hapart.2 hfirst.numbered (EmitEnd.orElse first ending)
        refine ⟨ending', w', (run_bind hcreate _).trans ((run_bind hunit _).trans ?_), ?_, ?_⟩
        · rw [if_neg hcrashed]
          exact hrest
        · -- The place of the first unit is the same in the end.
          refine (hfirst.mono ?_).trans (hrewrites'.mono ?_)
          · rintro q x ⟨hq, hx⟩
            exact ⟨d, List.mem_cons_self, hrewrites'.place hq, hx⟩
          · rintro q x ⟨d', hd', hx⟩
            exact ⟨d', List.mem_cons_of_mem d hd', hx⟩
        · -- The first unit is not touched by the rest, since the units have different places.
          intro hend
          obtain ⟨hboth, hloads⟩ := hdone hend
          obtain ⟨hfirst, hunitDone⟩ := EmitEnd.orElse_eq_done.mp hboth
          refine ⟨hfirst, List.forall_mem_cons.mpr ⟨?_, hloads⟩⟩
          obtain ⟨q, hq, hheld⟩ := Store.load_eq_ok.mp (hthere hunitDone)
          refine Store.load_eq_ok.mpr ⟨q, hrewrites'.place hq, ?_⟩
          refine hrewrites'.held_of_not_new hheld ?_
          rintro x ⟨d', hd', hq', -⟩
          exact hapart.1 d' hd' _ q (hrewrites'.place hq) hq'

end Emit

/-- The emission of a document whose names are told apart changes nothing but the files of its
units, and where it succeeds, every file holds the text of its unit. -/
theorem Doc.run_emit {f : FileUnits} {table : WordTable} {doc : Doc}
    (hf : FileUnits.Extension f.extension) (hreadable : doc.Readable table)
    (hapart : doc.NamesApart) (hs : w.store.Numbered) (backend : Backend) (version : Text) :
    ∃ ending w', (doc.emit backend version f.factory : StateM World _).run w = (ending, w') ∧
      Rewrites (fun q x => ∃ d ∈ doc.types, w'.store.place (f.unitPath doc d) = .ok q ∧
        x = doc.unitText backend version d) w.store w'.store ∧
      (ending = .done → ∀ d ∈ doc.types,
        w'.store.load (f.unitPath doc d) = .ok (doc.unitText backend version d)) := by
  obtain ⟨w₁, hlog, hstore⟩ := w.run_log (Emit.startEntry backend doc)
  rw [← hstore] at hs ⊢
  -- Different names lead to different places, which the emission of the units asks for.
  have hnames : doc.types.Pairwise fun d d' => ∀ (s : Store) q,
      s.place (f.unitPath doc d) = .ok q → s.place (f.unitPath doc d') ≠ .ok q := by
    have hnodup := List.pairwise_map.mp hapart.types_nodup
    refine hnodup.imp_of_mem fun hd hd' hne s q hq hq' => hne ?_
    exact FileUnits.name_eq_of_place hf hreadable hd hd' hq hq'
  obtain ⟨ending, w', hunits, hrewrites, hdone⟩ := Emit.run_emitUnits backend version
    (fun d hd s q => FileUnits.settled_of_place hf hreadable hd) hnames hs .done
  refine ⟨ending, w', (run_bind hlog _).trans ?_, hrewrites, fun h => (hdone h).2⟩
  rw [Doc.provenance?, Doc.written?_of_complete hreadable.isComplete]
  exact hunits

theorem Doc.load_of_emit_done {f : FileUnits} {table : WordTable} {doc : Doc}
    (hf : FileUnits.Extension f.extension) (hreadable : doc.Readable table)
    (hapart : doc.NamesApart) (hs : w.store.Numbered) {backend : Backend} {version : Text}
    {w' : World} (h : (doc.emit backend version f.factory : StateM World _).run w = (.done, w')) :
    ∀ d ∈ doc.types, w'.store.load (f.unitPath doc d) = .ok (doc.unitText backend version d) := by
  obtain ⟨ending, v, hrun, -, hloads⟩ := Doc.run_emit hf hreadable hapart hs backend version
  cases h.symm.trans hrun
  exact hloads rfl

end AdtCompiler
