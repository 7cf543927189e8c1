import AdtCompiler.Proofs.FaultyWorld
import AdtCompiler.Proofs.Resolution

/-!
# A file is published whole or not at all

A target collects what is written to it in a new file beside its path and gives that file its final
name when it is closed. Whatever operations of the file system fail on the way, the only step that
changes any other file is this renaming, and the target takes it only if everything was written.

## Contents

- `FileTarget.Open` and `FileTarget.Released`: the two states of a target
- `FileTarget.run_write`, `run_abort_open`, `run_close_open`: what one call does
- `FileTarget.AllOrNothing` and `FileTarget.create_all_or_nothing`
-/

namespace AdtCompiler

/-! ## Stores that differ at one place -/

namespace Store

variable {s s' s'' : Store} {p q : Place} {path text : Text}

/-- All places but one hold the same. -/
structure AgreeBut (p : Place) (s s' : Store) : Prop where
  workingDir : s'.workingDir = s.workingDir
  held : ∀ q, q ≠ p → s'.held q = s.held q

namespace AgreeBut

theorem refl (p : Place) (s : Store) : AgreeBut p s s := ⟨rfl, fun _ _ => rfl⟩

theorem trans (h : AgreeBut p s s') (h' : AgreeBut p s' s'') : AgreeBut p s s'' :=
  ⟨h'.workingDir.trans h.workingDir, fun q hq => (h'.held q hq).trans (h.held q hq)⟩

theorem symm (h : AgreeBut p s s') : AgreeBut p s' s :=
  ⟨h.workingDir.symm, fun q hq => (h.held q hq).symm⟩

/-- If the one place is that of a file, paths have the same places. -/
theorem place (h : AgreeBut p s s') {id : Nat} (hp : s.node? p = some (.file id))
    (hplace : s.place path = .ok q) : s'.place path = .ok q := by
  refine place_mono hplace h.workingDir fun r hr => ?_
  have hrp : r ≠ p := fun hrp => by simp [hrp, hp] at hr
  rw [← held_eq_directory, h.held r hrp]
  exact held_eq_directory.mpr hr

theorem target (h : AgreeBut p s s') (path : Text) : s'.target path = s.target path :=
  target_congr h.workingDir path

end AgreeBut

/-- Where the places hold the same directories, a path has the same place. -/
theorem place_of_nodes (hplace : s.place path = .ok q) (hdir : s'.workingDir = s.workingDir)
    (hnodes : s'.nodes = s.nodes) : s'.place path = .ok q := by
  refine place_mono hplace hdir fun r hr => ?_
  simpa [node?, hnodes] using hr

theorem remove_file {id : Nat} (hplace : s.place path = .ok p)
    (hnode : s.node? p = some (.file id)) : s.remove path = .ok (s.dropNode p) := by
  have hfind := find_eq_ok.mpr ⟨hplace, hnode⟩
  simp [Store.remove, hfind, blame, bind, Except.bind]

theorem held_dropNode (hp : p ≠ []) (q : Place) :
    (s.dropNode p).held q = if q = p then none else s.held q := by
  unfold held
  rw [node?_dropNode hp]
  split <;> rfl

theorem held_putNode (hp : p ≠ []) (id : Nat) (q : Place) :
    (s.putNode p (.file id)).held q = if q = p then some (.file (s.content id)) else s.held q := by
  unfold held
  rw [node?_putNode hp]
  split <;> rfl

/-- The path of a new file is that of a new name in the directory. -/
theorem name_of_createTemp {dir start : Text} {h : Handle}
    (hcreate : s.createTemp dir start [] = .ok (s', h)) :
    Path.slash ∉ start ∧ h.name = Path.inside dir (s.newName start []) := by
  unfold createTemp at hcreate
  split at hcreate
  · cases hcreate
  · rename_i hpattern
    rcases hp : s.place (Path.inside dir (s.newName start [])) with e | p
    · simp [hp, blame, bind, Except.bind] at hcreate
    · simp only [hp, blame, bind, Except.bind, Except.ok.injEq, Prod.mk.injEq] at hcreate
      exact ⟨fun hslash => hpattern (by simp [hslash]), hcreate.2 ▸ rfl⟩

end Store

/-! ## The states of a target -/

namespace FileTarget

open Store (AgreeBut)

variable {t : FileTarget} {u : FaultyWorld} {s : Store} {p : Place} {text : Text}

/-- The text of a target is in its file, which has a place of its own. -/
structure Holds (t : FileTarget) (p : Place) (text : Text) (s : Store) : Prop where
  place : s.place t.temp.name = .ok p
  node : s.node? p = some (.file t.temp.id)
  only : ∀ q, s.node? q = some (.file t.temp.id) → q = p
  content : s.content t.temp.id = text
  apart : s.target t.path ≠ p

/-- A target that was not released: its file is open. -/
structure Open (t : FileTarget) (p : Place) (text : Text) (s : Store) : Prop
    extends Holds t p text s where
  closed_eq : t.closed = false
  opened : s.opened.lookup t.temp.id = some t.temp.id

/-- A target that was released: its file is not open. -/
structure Released (t : FileTarget) (s : Store) : Prop where
  closed_eq : t.closed = true
  opened : s.opened.lookup t.temp.id = none

namespace Holds

theorem ne_nil (h : Holds t p text s) : p ≠ [] := by
  rintro rfl
  cases h.node

/-- Writing to the file changes no other place. -/
theorem agreeBut_putContent (h : Holds t p text s) (more : Text) :
    AgreeBut p s (s.putContent t.temp.id more) := by
  refine ⟨rfl, fun q hq => ?_⟩
  have hnode : (s.putContent t.temp.id more).node? q = s.node? q := rfl
  unfold Store.held
  rw [hnode]
  rcases hfound : s.node? q with _ | _ | id
  · rfl
  · rfl
  · have hid : id ≠ t.temp.id := fun hid => hq (h.only q (hid ▸ hfound))
    simp [Store.content_putContent, hid]

/-- Taking its name away changes no other place. -/
theorem agreeBut_dropNode (h : Holds t p text s) : AgreeBut p s (s.dropNode p) :=
  ⟨rfl, fun q hq => by rw [Store.held_dropNode h.ne_nil, if_neg hq]⟩

/-- Giving it its final name puts the text there and takes it away from its place. -/
theorem rename_eq_ok (h : Holds t p text s) {s' : Store}
    (hrename : s.rename t.temp.name t.path = .ok s') :
    ∃ q, s.place t.path = .ok q ∧ s'.place t.path = .ok q ∧ s'.opened = s.opened ∧
      s'.workingDir = s.workingDir ∧ ∀ r, s'.held r =
        if r = q then some (.file text) else if r = p then none else s.held r := by
  have hfind := Store.find_eq_ok.mpr ⟨h.place, h.node⟩
  obtain ⟨_, q, _, -, hplace, -⟩ := Store.rename_cases hrename
  -- The path of the target never leads to its temporary file.
  have hqp : q ≠ p := fun hqp => h.apart (hqp ▸ (Store.eq_target_of_place hplace).symm)
  have hdirectory : s.node? q ≠ some .directory := by
    intro hdirectory
    simp [Store.rename, hfind, hplace, hdirectory, bind, Except.bind] at hrename
  rw [Store.rename_file hfind hplace hdirectory hqp.symm] at hrename
  obtain rfl := Except.ok.inj hrename
  have hq : q ≠ [] := fun hq => hdirectory (by simp [Store.node?, hq])
  refine ⟨q, hplace, Store.place_mono hplace rfl fun r hr => ?_, rfl, rfl, fun r => ?_⟩
  · -- The directories on the way to the path are neither of the two files.
    have hrp : r ≠ p := fun hrp => by simp [hrp, h.node] at hr
    have hrq : r ≠ q := fun hrq => hdirectory (hrq ▸ hr)
    rw [Store.node?_putNode hq, if_neg hrq, Store.node?_dropNode h.ne_nil, if_neg hrp, hr]
  · have hcontent : (s.dropNode p).content t.temp.id = text := h.content
    rw [Store.held_putNode hq, hcontent, Store.held_dropNode h.ne_nil]

end Holds

/-- The temporary file is gone, unless the system refused to remove it. -/
def Gone (p : Place) (u : FaultyWorld) : Prop :=
  (∀ e ∈ u.refused, e.operation ≠ .removing) → u.world.store.held p = none

/-! ## One call -/

/-- What is done with a target. -/
inductive Call where
  | write (text : Text)
  | close
  | abort
deriving Repr, DecidableEq

/-- The text that a call writes. -/
def Call.written : Call → Text
  | write text => text
  | close => []
  | abort => []

/-- Whether a call writes; the others release the target. -/
def Call.Writes (c : Call) : Prop := ∃ text, c = .write text

/-- Carries out a call. -/
def perform {m : Type → Type} [Host m] (t : FileTarget) : Call → m (Option Failure × FileTarget)
  | .write text => t.write text
  | .close => t.close
  | .abort => t.abort

/-- A write adds a part of the text to the file, and all of it if it reports no failure. A failure
is remembered. -/
theorem run_write (h : Open t p text u.world.store) (more : Text) :
    ∃ failure t' u' text',
      (t.perform (.write more) : StateM FaultyWorld _).run u = ((failure, t'), u') ∧
      Open t' p text' u'.world.store ∧ AgreeBut p u.world.store u'.world.store ∧
      t'.path = t.path ∧ (t'.failure = none ↔ t.failure = none ∧ failure = none) ∧
      (failure = none → text' = text ++ more) := by
  obtain ⟨result, u', n, happend, hstore, hwhole⟩ := FaultyWorld.run_append h.opened more
  -- However the write ends, what arrived is a front part of the text.
  have hopen : Open t p (text ++ more.take n) u'.world.store := by
    rw [hstore]
    exact { h with
      place := Store.place_of_nodes h.place rfl rfl
      content := by rw [Store.content_putContent, if_pos rfl, h.content] }
  have hagree : AgreeBut p u.world.store u'.world.store := hstore ▸ h.agreeBut_putContent _
  cases result with
  | ok _ =>
    refine ⟨none, t, u', _, run_bind happend _, hopen, hagree, rfl, by simp, fun _ => ?_⟩
    rw [hwhole rfl]
  | error e =>
    -- The target remembers the first failure only.
    refine ⟨_, _, u', _, run_bind happend _, { hopen with }, hagree, rfl, ?_, nofun⟩
    cases t.failure <;> simp

/-- A write to a released target is refused. -/
theorem run_write_released (h : Released t u.world.store) (more : Text) :
    ∃ failure t' u', (t.write more : StateM FaultyWorld _).run u = ((failure, t'), u') ∧
      Released t' u'.world.store ∧ u'.world = u.world := by
  obtain ⟨e, u', happend, hworld⟩ := FaultyWorld.run_append_closed h.opened more
  exact ⟨_, _, u', run_bind happend _, hworld ▸ { h with }, hworld⟩

/-- Closing the file leaves the text in it. -/
theorem run_closeTemp (h : Open t p text u.world.store) :
    ∃ result u', (Host.close t.temp : StateM FaultyWorld _).run u = (result, u') ∧
      Holds t p text u'.world.store ∧ u'.world.store.opened.lookup t.temp.id = none ∧
      AgreeBut p u.world.store u'.world.store := by
  obtain ⟨result, u', hclose, hstore⟩ := FaultyWorld.run_close h.opened
  refine ⟨result, u', hclose, ?_⟩
  rw [hstore]
  refine ⟨{ h.toHolds with place := Store.place_of_nodes h.place rfl rfl }, ?_, rfl, fun _ _ => rfl⟩
  simp [Store.lookup_filter_ne]

/-- Removing the file changes no other place. -/
theorem run_removeTemp (h : Holds t p text u.world.store)
    (hopened : u.world.store.opened.lookup t.temp.id = none) :
    ∃ result u', (Host.remove t.temp.name : StateM FaultyWorld _).run u = (result, u') ∧
      u'.world.store.opened.lookup t.temp.id = none ∧
      AgreeBut p u.world.store u'.world.store ∧ Gone p u' := by
  obtain ⟨result, u', hremove, ⟨⟨e, he, hremoving⟩, hworld⟩ | ⟨-, hstore⟩⟩ :=
    u.run_remove (Store.remove_file h.place h.node)
  · refine ⟨result, u', hremove, hworld ▸ hopened, hworld ▸ .refl p _, fun hnone => ?_⟩
    exact absurd hremoving (hnone e he)
  · refine ⟨result, u', hremove, hstore ▸ hopened, hstore ▸ h.agreeBut_dropNode, fun _ => ?_⟩
    rw [hstore, Store.held_dropNode h.ne_nil, if_pos rfl]

/-- An aborted target publishes nothing. -/
theorem run_abort_open (h : Open t p text u.world.store) :
    ∃ failure t' u', (t.abort : StateM FaultyWorld _).run u = ((failure, t'), u') ∧
      Released t' u'.world.store ∧ AgreeBut p u.world.store u'.world.store ∧ Gone p u' := by
  obtain ⟨closed, u₁, hclose, hholds, hopened, hagree⟩ := run_closeTemp h
  obtain ⟨removed, u₂, hremove, hopened', hagree', hgone⟩ := run_removeTemp hholds hopened
  -- Which failure is reported has no influence on what is left.
  obtain ⟨failure, hend⟩ : ∃ failure, (t.abort : StateM FaultyWorld _).run u =
      ((failure, { t with closed := true }), u₂) := by
    unfold abort
    simp only [h.closed_eq]
    refine Exists.imp (fun _ hend => (run_bind hclose _).trans ((run_bind hremove _).trans hend)) ?_
    cases removed with
    | ok _ => cases closed <;> exact ⟨_, rfl⟩
    | error e =>
      dsimp only
      split
      · cases closed <;> exact ⟨_, rfl⟩
      · exact ⟨_, rfl⟩
  exact ⟨failure, _, u₂, hend, ⟨rfl, hopened'⟩, hagree.trans hagree', hgone⟩

/-- The text of a target is at its path, all other places but that of its file are unchanged. -/
structure Published (t : FileTarget) (p q : Place) (text : Text) (s s' : Store) : Prop where
  place : s.place t.path = .ok q
  place_after : s'.place t.path = .ok q
  workingDir : s'.workingDir = s.workingDir
  held : ∀ r, s'.held r = if r = q then some (.file text) else if r = p then none else s.held r

/-- A closed target publishes its text, or it fails and publishes nothing. It fails if a write
failed. -/
theorem run_close_open (h : Open t p text u.world.store) :
    ∃ failure t' u', (t.close : StateM FaultyWorld _).run u = ((failure, t'), u') ∧
      Released t' u'.world.store ∧ Gone p u' ∧
      (failure ≠ none ∧ AgreeBut p u.world.store u'.world.store ∨
        failure = none ∧ t.failure = none ∧
          ∃ q, q ≠ p ∧ Published t p q text u.world.store u'.world.store) := by
  cases hfailure : t.failure with
  | some failure =>
    -- A write failed before, so nothing is published.
    obtain ⟨_, t', u', habort, hreleased, hagree, hgone⟩ := run_abort_open h
    refine ⟨some failure, t', u', ?_, hreleased, hgone, .inl ⟨nofun, hagree⟩⟩
    unfold close
    simp only [h.closed_eq, hfailure]
    exact run_bind habort _
  | none =>
    obtain ⟨closed, u₁, hclose, hholds, hopened, hagree⟩ := run_closeTemp h
    obtain ⟨removed, u₂, hremove, hopened₂, hagree₂, hgone⟩ := run_removeTemp hholds hopened
    unfold close
    simp only [h.closed_eq, hfailure]
    cases closed with
    | error e =>
      -- The text may not have arrived, and the file is removed.
      refine ⟨_, _, u₂, (run_bind hclose _).trans (run_bind hremove _), ⟨rfl, hopened₂⟩, hgone,
        .inl ⟨nofun, hagree.trans hagree₂⟩⟩
    | ok _ =>
      obtain ⟨renamed, u₃, hrename, ⟨e, rfl, hworld⟩ | ⟨rfl, hstore⟩⟩ :=
        u₁.run_rename t.temp.name t.path
      · -- The file is still there and is removed, as if closing had failed.
        rw [← hworld] at hholds hopened
        obtain ⟨removed, u₄, hremove, hopened₄, hagree₄, hgone⟩ := run_removeTemp hholds hopened
        refine ⟨_, _, u₄,
          (run_bind hclose _).trans ((run_bind hrename _).trans (run_bind hremove _)),
          ⟨rfl, hopened₄⟩, hgone, .inl ⟨nofun, hagree.trans (hworld ▸ hagree₄)⟩⟩
      · -- The only way to success: the file got its final name.
        obtain ⟨q, hplace, hplace', hopened', hdir, hheld⟩ := hholds.rename_eq_ok hstore
        have hqp : q ≠ p := fun hqp => hholds.apart (hqp ▸ (Store.eq_target_of_place hplace).symm)
        refine ⟨none, _, u₃, (run_bind hclose _).trans (run_bind hrename _),
          ⟨rfl, hopened' ▸ hopened⟩, fun _ => ?_, .inr ⟨rfl, trivial, q, hqp,
            hagree.symm.place hholds.node hplace, hplace', hdir.trans hagree.workingDir,
            fun r => ?_⟩⟩
        · rw [hheld, if_neg hqp.symm, if_pos rfl]
        · rw [hheld]
          split
          · rfl
          · split
            · rfl
            · rename_i hrp
              exact hagree.held r hrp

/-- A call that releases an open target publishes its text, or nothing. -/
theorem run_release (h : Open t p text u.world.store) {c : Call} (hc : ¬c.Writes) :
    ∃ failure t' u', (t.perform c : StateM FaultyWorld _).run u = ((failure, t'), u') ∧
      Released t' u'.world.store ∧ Gone p u' ∧
      ((c = .close → failure ≠ none) ∧ AgreeBut p u.world.store u'.world.store ∨
        c = .close ∧ failure = none ∧ t.failure = none ∧
          ∃ q, q ≠ p ∧ Published t p q text u.world.store u'.world.store) := by
  cases c with
  | write more => exact absurd ⟨more, rfl⟩ hc
  | close =>
    obtain ⟨failure, t', u', hclose, hreleased, hgone, ⟨hfailed, hagree⟩ | hpublished⟩ :=
      run_close_open h
    · exact ⟨failure, t', u', hclose, hreleased, hgone, .inl ⟨fun _ => hfailed, hagree⟩⟩
    · exact ⟨failure, t', u', hclose, hreleased, hgone, .inr ⟨rfl, hpublished⟩⟩
  | abort =>
    obtain ⟨failure, t', u', habort, hreleased, hagree, hgone⟩ := run_abort_open h
    exact ⟨failure, t', u', habort, hreleased, hgone, .inl ⟨nofun, hagree⟩⟩

/-- Nothing that is done with a released target changes anything. -/
theorem run_perform_released (h : Released t u.world.store) (c : Call) :
    ∃ failure t' u', (t.perform c : StateM FaultyWorld _).run u = ((failure, t'), u') ∧
      Released t' u'.world.store ∧ u'.world = u.world := by
  cases c with
  | write more => exact run_write_released h more
  | close =>
    refine ⟨none, t, u, ?_, h, rfl⟩
    simp only [perform, close, h.closed_eq]
    rfl
  | abort =>
    refine ⟨none, t, u, ?_, h, rfl⟩
    simp only [perform, abort, h.closed_eq]
    rfl

/-! ## Calls in a row -/

/-- Carries out calls in a row, whatever they return, and lists their failures. -/
def performAll {m : Type → Type} [Host m] (t : FileTarget) :
    List Call → m (List (Option Failure) × FileTarget)
  | [] => return ([], t)
  | c :: cs => do
    let (failure, t) ← t.perform c
    let (more, t) ← t.performAll cs
    return (failure :: more, t)

theorem run_performAll_cons {c : Call} {failure : Option Failure} {t' : FileTarget}
    {u' : FaultyWorld} (h : (t.perform c : StateM FaultyWorld _).run u = ((failure, t'), u'))
    (cs : List Call) :
    (t.performAll (c :: cs) : StateM FaultyWorld _).run u =
      let rest := (t'.performAll cs : StateM FaultyWorld _).run u'
      ((failure :: rest.1.1, rest.1.2), rest.2) :=
  run_bind h _

theorem run_performAll_append (t : FileTarget) (u : FaultyWorld) (cs ds : List Call) :
    (t.performAll (cs ++ ds) : StateM FaultyWorld _).run u =
      let first := (t.performAll cs : StateM FaultyWorld _).run u
      let rest := (first.1.2.performAll ds : StateM FaultyWorld _).run first.2
      ((first.1.1 ++ rest.1.1, rest.1.2), rest.2) := by
  induction cs generalizing t u with
  | nil => rfl
  | cons c cs ih =>
    obtain ⟨⟨⟨failure, t'⟩, u'⟩, hstep⟩ :
        ∃ r, (t.perform c : StateM FaultyWorld _).run u = r := ⟨_, rfl⟩
    rw [List.cons_append, run_performAll_cons hstep, run_performAll_cons hstep, ih]
    rfl

/-- Writes leave a target open. It has failed iff one of them has. -/
theorem run_writes (h : Open t p text u.world.store) {calls : List Call}
    (hcalls : ∀ c ∈ calls, c.Writes) :
    ∃ results t' u' text',
      (t.performAll calls : StateM FaultyWorld _).run u = ((results, t'), u') ∧
      Open t' p text' u'.world.store ∧ AgreeBut p u.world.store u'.world.store ∧
      t'.path = t.path ∧ (t'.failure = none ↔ t.failure = none ∧ ∀ r ∈ results, r = none) ∧
      ((∀ r ∈ results, r = none) → text' = text ++ calls.flatMap Call.written) := by
  induction calls generalizing t u text with
  | nil => exact ⟨[], t, u, text, rfl, h, .refl p _, rfl, by simp, by simp⟩
  | cons c cs ih =>
    -- The results are those of the first write and of the rest, and so are the failures.
    simp only [List.forall_mem_cons] at hcalls
    obtain ⟨more, rfl⟩ := hcalls.1
    obtain ⟨failure, t₁, u₁, text₁, hwrite, hopen₁, hagree₁, hpath₁, hfailure₁, htext₁⟩ :=
      run_write h more
    obtain ⟨results, t₂, u₂, text₂, hrest, hopen₂, hagree₂, hpath₂, hfailure₂, htext₂⟩ :=
      ih hopen₁ hcalls.2
    refine ⟨failure :: results, t₂, u₂, text₂, ?_, hopen₂, hagree₁.trans hagree₂,
      hpath₂.trans hpath₁, ?_, ?_⟩
    · rw [run_performAll_cons hwrite, hrest]
    · rw [hfailure₂, hfailure₁, List.forall_mem_cons, and_assoc]
    · simp only [List.forall_mem_cons]
      rintro ⟨hnone, hall⟩
      rw [htext₂ hall, htext₁ hnone]
      simp [Call.written]

/-- No sequence of calls on a released target changes anything. -/
theorem run_performAll_released (h : Released t u.world.store) (calls : List Call) :
    ∃ results t' u', (t.performAll calls : StateM FaultyWorld _).run u = ((results, t'), u') ∧
      Released t' u'.world.store ∧ u'.world = u.world := by
  induction calls generalizing t u with
  | nil => exact ⟨[], t, u, rfl, h, rfl⟩
  | cons c cs ih =>
    obtain ⟨failure, t₁, u₁, hstep, hreleased₁, hworld₁⟩ := run_perform_released h c
    obtain ⟨results, t₂, u₂, hrest, hreleased₂, hworld₂⟩ := ih hreleased₁
    refine ⟨failure :: results, t₂, u₂, ?_, hreleased₂, hworld₂.trans hworld₁⟩
    rw [run_performAll_cons hstep, hrest]

/-- A sequence with a call that does not write leaves a target released. -/
theorem run_performAll_release (h : Open t p text u.world.store) {calls : List Call}
    (hcalls : ∃ c ∈ calls, ¬c.Writes) :
    ∃ results t' u', (t.performAll calls : StateM FaultyWorld _).run u = ((results, t'), u') ∧
      Released t' u'.world.store ∧ u'.world.store.workingDir = u.world.store.workingDir := by
  induction calls generalizing t u text with
  | nil => simp at hcalls
  | cons c cs ih =>
    by_cases hc : c.Writes
    · -- The call that releases comes later, and the target is still open before it.
      obtain ⟨more, rfl⟩ := hc
      have hrest : ∃ c ∈ cs, ¬c.Writes := by
        obtain ⟨c, hmem, hrelease⟩ := hcalls
        rcases List.mem_cons.mp hmem with rfl | hmem
        · exact absurd ⟨more, rfl⟩ hrelease
        · exact ⟨c, hmem, hrelease⟩
      obtain ⟨failure, t₁, u₁, text₁, hwrite, hopen₁, hagree₁, -⟩ := run_write h more
      obtain ⟨results, t₂, u₂, hrest, hreleased, hdir⟩ := ih hopen₁ hrest
      refine ⟨failure :: results, t₂, u₂, ?_, hreleased, hdir.trans hagree₁.workingDir⟩
      rw [run_performAll_cons hwrite, hrest]
    · -- The first call releases, and the others find a released target.
      obtain ⟨failure, t₁, u₁, hstep, hreleased₁, -, hcases⟩ := run_release h hc
      obtain ⟨results, t₂, u₂, hrest, hreleased₂, hworld⟩ := run_performAll_released hreleased₁ cs
      refine ⟨failure :: results, t₂, u₂, ?_, hreleased₂, ?_⟩
      · rw [run_performAll_cons hstep, hrest]
      · rw [hworld]
        rcases hcases with ⟨-, hagree⟩ | ⟨-, -, -, q, -, hpublished⟩
        · exact hagree.workingDir
        · exact hpublished.workingDir

/-! ## All or nothing -/

/-- What is left of a system after calls on a target. -/
def after (t : FileTarget) (u : FaultyWorld) (calls : List Call) : FaultyWorld :=
  ((t.performAll calls : StateM FaultyWorld _).run u).2

/-- The failures that calls on a target report. -/
def reports (t : FileTarget) (u : FaultyWorld) (calls : List Call) : List (Option Failure) :=
  ((t.performAll calls : StateM FaultyWorld _).run u).1.1

/-- What all sequences of calls on a target do, whose file is at a place. -/
structure AllOrNothing (t : FileTarget) (p : Place) (u : FaultyWorld) : Prop where
  /-- The final path never leads to the temporary file. -/
  apart : ∀ calls q, (t.after u calls).world.store.place t.path = .ok q → q ≠ p
  /-- A call that changes another place than that of the temporary file is the first close, all
  calls before it wrote without failure, it reports none itself, the place is that of the final
  path, and it holds all that was written. -/
  changes : ∀ calls call q, q ≠ p →
    (t.after u (calls ++ [call])).world.store.held q ≠ (t.after u calls).world.store.held q →
    call = .close ∧ (∀ c ∈ calls, c.Writes) ∧ (∀ r ∈ t.reports u (calls ++ [call]), r = none) ∧
      (t.after u calls).world.store.place t.path = .ok q ∧
      (t.after u (calls ++ [call])).world.store.held q =
        some (.file (calls.flatMap Call.written))
  /-- A place that still changes has not changed before. -/
  once : ∀ calls more q, q ≠ p →
    (t.after u (calls ++ more)).world.store.held q ≠ (t.after u calls).world.store.held q →
    (t.after u calls).world.store.held q = u.world.store.held q
  /-- If the first close reports no failure, the final path has all that was written. -/
  publishes : ∀ calls, (∀ c ∈ calls, c.Writes) →
    (t.reports u (calls ++ [.close])).getLast? = some none →
    (t.after u (calls ++ [.close])).world.store.load t.path = .ok (calls.flatMap Call.written)
  /-- The first call that does not write removes the temporary file. -/
  gone : ∀ calls call, (∀ c ∈ calls, c.Writes) → ¬call.Writes →
    Gone p (t.after u (calls ++ [call]))
  /-- Behind it nothing changes any more. -/
  settled : ∀ calls more, (∃ c ∈ calls, ¬c.Writes) →
    (t.after u (calls ++ more)).world = (t.after u calls).world

section AllOrNothing

variable {calls : List Call} {results : List (Option Failure)} {t' : FileTarget} {u' : FaultyWorld}

/-- One more call, seen from what is left of those before it. -/
theorem run_performAll_concat {c : Call} {failure : Option Failure} {t'' : FileTarget}
    {u'' : FaultyWorld}
    (hcalls : (t.performAll calls : StateM FaultyWorld _).run u = ((results, t'), u'))
    (hcall : (t'.perform c : StateM FaultyWorld _).run u' = ((failure, t''), u'')) :
    (t.performAll (calls ++ [c]) : StateM FaultyWorld _).run u =
      ((results ++ [failure], t''), u'') := by
  rw [run_performAll_append, hcalls]
  dsimp only
  rw [run_performAll_cons hcall]
  rfl

theorem after_eq (h : (t.performAll calls : StateM FaultyWorld _).run u = ((results, t'), u')) :
    t.after u calls = u' := by
  rw [after, h]

theorem reports_eq (h : (t.performAll calls : StateM FaultyWorld _).run u = ((results, t'), u')) :
    t.reports u calls = results := by
  rw [reports, h]

theorem workingDir_after (h : Open t p text u.world.store) :
    (t.after u calls).world.store.workingDir = u.world.store.workingDir := by
  by_cases hcalls : ∀ c ∈ calls, c.Writes
  · obtain ⟨results, t₁, u₁, text, hrun, -, hagree, -⟩ := run_writes h hcalls
    rw [after_eq hrun]
    exact hagree.workingDir
  · push Not at hcalls
    obtain ⟨results, t₁, u₁, hrun, -, hdir⟩ := run_performAll_release h hcalls
    rw [after_eq hrun]
    exact hdir

theorem settled_of_open (h : Open t p text u.world.store) (more : List Call)
    (hcalls : ∃ c ∈ calls, ¬c.Writes) :
    (t.after u (calls ++ more)).world = (t.after u calls).world := by
  obtain ⟨results, t₁, u₁, hrun, hreleased, -⟩ := run_performAll_release h hcalls
  obtain ⟨results₂, t₂, u₂, hmore, -, hworld⟩ := run_performAll_released hreleased more
  rw [after_eq hrun, after, run_performAll_append, hrun]
  simp only [hmore, hworld]

theorem allOrNothing_of_open (h : Open t p [] u.world.store) : AllOrNothing t p u where
  apart calls q hplace := by
    rw [Store.eq_target_of_place hplace, Store.target_congr (workingDir_after h)]
    exact h.apart
  changes calls call q hq hchange := by
    -- A change is possible only while the target is open, that is, after writes alone.
    by_cases hcalls : ∀ c ∈ calls, c.Writes
    · obtain ⟨results, t₁, u₁, text, hrun, hopen, -, hpath, hfailed, htext⟩ := run_writes h hcalls
      by_cases hcall : call.Writes
      · -- One more write changes the temporary file alone.
        obtain ⟨more, rfl⟩ := hcall
        obtain ⟨failure, t₂, u₂, -, hstep, -, hagree, -⟩ := run_write hopen more
        rw [after_eq hrun, after_eq (run_performAll_concat hrun hstep)] at hchange
        exact absurd (hagree.held q hq) hchange
      · -- Of the calls that release, only one that publishes changes another place.
        obtain ⟨failure, t₂, u₂, hstep, -, -, ⟨-, hagree⟩ | hpublished⟩ := run_release hopen hcall
        · rw [after_eq hrun, after_eq (run_performAll_concat hrun hstep)] at hchange
          exact absurd (hagree.held q hq) hchange
        · obtain ⟨rfl, rfl, hnone, q', hq', hpublished⟩ := hpublished
          have hall := (hfailed.mp hnone).2
          have hstep' := run_performAll_concat hrun hstep
          rw [after_eq hrun, after_eq hstep'] at hchange ⊢
          rw [reports_eq hstep']
          -- What was published is the only change, so the place is the one of the path.
          obtain rfl : q = q' := by
            by_contra hne
            exact hchange (by rw [hpublished.held, if_neg hne, if_neg hq])
          refine ⟨rfl, hcalls, ?_, hpath ▸ hpublished.place, ?_⟩
          · exact List.forall_mem_append.mpr ⟨hall, by simp⟩
          · rw [hpublished.held, if_pos rfl, htext hall]
            rfl
    · push Not at hcalls
      exact absurd (congrArg (·.store.held q) (settled_of_open h [call] hcalls)) hchange
  once calls more q hq hchange := by
    by_cases hcalls : ∀ c ∈ calls, c.Writes
    · obtain ⟨results, t₁, u₁, text, hrun, -, hagree, -⟩ := run_writes h hcalls
      rw [after_eq hrun]
      exact hagree.held q hq
    · push Not at hcalls
      exact absurd (congrArg (·.store.held q) (settled_of_open h more hcalls)) hchange
  publishes calls hcalls hreport := by
    obtain ⟨results, t₁, u₁, text, hrun, hopen, -, hpath, hfailed, htext⟩ := run_writes h hcalls
    have hrelease : ¬Call.close.Writes := nofun
    obtain ⟨failure, t₂, u₂, hstep, -, -, hcases⟩ := run_release hopen hrelease
    have hstep' := run_performAll_concat hrun hstep
    rw [reports_eq hstep', List.getLast?_concat] at hreport
    obtain rfl := Option.some.inj hreport
    -- A close that reports success has published, and no write has failed then.
    rcases hcases with ⟨hfails, -⟩ | ⟨-, -, hnone, q, -, hpublished⟩
    · exact absurd rfl (hfails rfl)
    · rw [after_eq hstep']
      refine Store.load_eq_ok.mpr ⟨q, hpath ▸ hpublished.place_after, ?_⟩
      rw [hpublished.held, if_pos rfl, htext (hfailed.mp hnone).2]
      rfl
  gone calls call hcalls hcall := by
    obtain ⟨results, t₁, u₁, text, hrun, hopen, -⟩ := run_writes h hcalls
    obtain ⟨failure, t₂, u₂, hstep, -, hgone, -⟩ := run_release hopen hcall
    rw [after_eq (run_performAll_concat hrun hstep)]
    exact hgone
  settled calls more hcalls := settled_of_open h more hcalls

end AllOrNothing

end FileTarget

/-! ## New targets -/

open FileTarget (Open AllOrNothing Call Gone)

namespace FileUnits

variable {f : FileUnits} {name : Text} {w₀ w : World} {t : FileTarget}

/-- A target is created by making directories and then a new file in the last of them. -/
theorem steps_of_create (h : (f.create name : StateM World _).run w₀ = (.ok t, w)) :
    ∃ w₁, (makeDirs (Path.parent (f.pathFor name)) : StateM World _).run w₀ = (.ok (), w₁) ∧
      w₁.store.createTemp (Path.parent (f.pathFor name))
        ("." ++ Path.base (f.pathFor name) ++ ".tmp-") [] = .ok (w.store, t.temp) ∧
      t = { path := f.pathFor name, temp := t.temp } := by
  -- Each step that fails ends the creation with an error, against the assumption.
  obtain ⟨⟨made, w₁⟩, hmake⟩ :
      ∃ r, (makeDirs (Path.parent (f.pathFor name)) : StateM World _).run w₀ = r := ⟨_, rfl⟩
  cases made with
  | error e => cases h.symm.trans (run_bind hmake _)
  | ok _ =>
    rcases hcreate : w₁.store.createTemp (Path.parent (f.pathFor name))
      ("." ++ Path.base (f.pathFor name) ++ ".tmp-") [] with e | ⟨store, temp⟩
    · have htemp := World.run_createTemp_error hcreate
      cases h.symm.trans ((run_bind hmake _).trans (run_bind htemp _))
    · have htemp := World.run_createTemp_ok hcreate
      obtain ⟨ht, rfl⟩ := Prod.mk.inj (h.symm.trans ((run_bind hmake _).trans (run_bind htemp _)))
      obtain rfl := Except.ok.inj ht
      exact ⟨w₁, hmake, hcreate, rfl⟩

/-- A target is created in a new file of a store in which no file has changed. -/
theorem createTemp_of_create (hs : w₀.store.Numbered)
    (h : (f.create name : StateM World _).run w₀ = (.ok t, w)) :
    ∃ s : Store, s.Numbered ∧
      s.createTemp (Path.parent t.path) ("." ++ Path.base t.path ++ ".tmp-") [] =
        .ok (w.store, t.temp) ∧ t.closed = false := by
  obtain ⟨w₁, hmake, hcreate, ht⟩ := steps_of_create h
  have hdirs := KeepsFiles.makeDirs (Path.parent (f.pathFor name)) w₀ hs
  rw [hmake] at hdirs
  rw [ht]
  exact ⟨w₁.store, hdirs.numbered, hcreate, rfl⟩

/-- A new target is open and empty. -/
theorem open_of_create (hs : w₀.store.Numbered)
    (h : (f.create name : StateM World _).run w₀ = (.ok t, w)) : ∃ p, Open t p [] w.store := by
  obtain ⟨s, hnumbered, hcreate, hclosed⟩ := createTemp_of_create hs h
  generalize hstart : ("." ++ Path.base t.path ++ ".tmp-" : Text) = start at hcreate
  -- The name of the new file is longer than that of the target, so they differ.
  have hlength : (Path.base t.path).length + 2 ≤ start.length := by
    have hpattern : (".tmp-" : Text).length = 5 := by decide
    simp only [← hstart, List.length_append]
    omega
  obtain ⟨above, hpending, hopened⟩ := Store.Pending.of_createTemp (by omega) hcreate
  refine ⟨_, ⟨hpending.place, hpending.node, fun q hq => ?_, hpending.text_eq, ?_⟩, hclosed,
    hopened⟩
  · -- The number of the new file is greater than those of all others.
    by_contra hqp
    rw [hpending.others q hqp] at hq
    have := hnumbered q _ hq
    have := hpending.next_le
    omega
  · obtain ⟨hslash, hname⟩ := Store.name_of_createTemp hcreate
    rw [Store.eq_target_of_place hpending.place, hname]
    refine Store.target_ne_inside _ _ (s.plain_newName hslash (by omega)) ?_
    obtain ⟨n, hnew, -⟩ := s.exists_newName start []
    simp only [hnew, List.length_append]
    omega

/-- **A file is published whole or not at all.** Whatever operations of the file system fail and
in whatever order a new target is used, the only call that changes any file but its temporary one
is the first close, if everything was written and it returns without failure, and the final path
then has all that was written. The first call that does not write removes the temporary file if
the system does not refuse that, and later ones change nothing. -/
theorem create_all_or_nothing (hs : w₀.store.Numbered)
    (h : (f.create name : StateM World _).run w₀ = (.ok t, w)) (faults : List (Option Fault)) :
    ∃ p, w.store.place t.temp.name = .ok p ∧ w.store.held p = some (.file []) ∧
      AllOrNothing t p ⟨w, faults, []⟩ := by
  obtain ⟨p, hopen⟩ := open_of_create hs h
  exact ⟨p, hopen.place, Store.held_eq_file.mpr ⟨_, hopen.node, hopen.content⟩,
    FileTarget.allOrNothing_of_open hopen⟩

namespace OldFile

/-- A system in which the final path of a unit has an old file. -/
def world : World where
  store := {
    nodes := [(["out", "a", "B.java"], .file 0), (["out", "a"], .directory), (["out"], .directory)]
    contents := [(0, "old")]
    next := 1 }

theorem numbered : world.store.Numbered := by
  intro p id h
  by_cases hp : p = []
  · simp [Store.node?, hp] at h
  · rw [Store.node?_of_ne_nil hp] at h
    have hmem := Store.mem_of_lookup h
    simp only [world, List.mem_cons, Prod.mk.injEq, List.not_mem_nil] at hmem
    grind [world]

/-- The units are put below a directory. -/
def units : FileUnits := ⟨"out", ".java"⟩

/-- The system lets the text be written and the file be closed, and does not rename it. -/
def faults : List (Option Fault) := [none, none, some ⟨.notFound, 1⟩]

def calls : List FileTarget.Call := [.write "new", .close]

/-- What the final path has after the calls. -/
def outcome (t : FileTarget) (w : World) (faults : List (Option Fault)) : Except FileError Text :=
  (t.after ⟨w, faults, []⟩ calls).world.store.load t.path

end OldFile

/-- If a new file cannot be renamed, the old one stays at the final path; otherwise all of the new
text replaces it. -/
theorem create_all_or_nothing_over_old :
    ∃ t w p, (OldFile.units.create "a.B" : StateM World _).run OldFile.world = (.ok t, w) ∧
      t.path = "out/a/B.java" ∧ w.store.load t.path = .ok "old" ∧
      AllOrNothing t p ⟨w, OldFile.faults, []⟩ ∧ OldFile.outcome t w OldFile.faults = .ok "old" ∧
      OldFile.outcome t w [] = .ok "new" := by
  have hcreated :
      (match (OldFile.units.create "a.B" : StateM World _).run OldFile.world with
      | (.ok t, w) => decide (t.path = "out/a/B.java" ∧ w.store.load t.path = .ok "old" ∧
          OldFile.outcome t w OldFile.faults = .ok "old" ∧ OldFile.outcome t w [] = .ok "new")
      | (.error _, _) => false) = true := by
    decide +kernel
  rcases hrun : (OldFile.units.create "a.B" : StateM World _).run OldFile.world with ⟨e | t, w⟩
  · simp [hrun] at hcreated
  · rw [hrun] at hcreated
    obtain ⟨hpath, hbefore, hrefused, hrenamed⟩ := of_decide_eq_true hcreated
    obtain ⟨p, -, -, hall⟩ := create_all_or_nothing OldFile.numbered hrun OldFile.faults
    exact ⟨t, w, p, rfl, hpath, hbefore, hall, hrefused, hrenamed⟩

end FileUnits

end AdtCompiler
