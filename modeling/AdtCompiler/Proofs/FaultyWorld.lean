import AdtCompiler.Host.Basic
import AdtCompiler.Proofs.FileUnits

/-!
# A system whose file operations may fail

The model of a system refuses an operation only for a reason that can be seen in its files. A real
one may refuse to write, close, rename or remove at any time. A faulty world is a model together
with the faults that are to come, one for each such operation. A fault in writing leaves any part
of the text from its start, and a fault in closing gives up the handle all the same. The refusals
are remembered, in the order in which they happened.

## Contents

- `FaultyWorld`: the host
- `FaultyWorld.run_append`, `run_close`, `run_rename`, `run_remove`: what is left of an operation
-/

namespace AdtCompiler

/-- A failure that has no reason in the files: its cause, and how much of a text is written before
it. -/
structure Fault where
  cause : FileCause
  written : Nat := 0
deriving Repr, DecidableEq

/-- The model of a system with faults to come and refusals so far. -/
structure FaultyWorld where
  world : World
  /-- One entry for each operation that may be faulty; behind the last there are no faults. -/
  faults : List (Option Fault) := []
  refused : List FileError := []
deriving Repr, DecidableEq

namespace FaultyWorld

variable {α : Type}

/-- An operation without faults. -/
def lift (x : StateM World α) : StateM FaultyWorld α := fun u =>
  ((x.run u.world).1, { u with world := (x.run u.world).2 })

/-- The error of a result, if it is one. -/
def errors : Except FileError α → List FileError
  | .ok _ => []
  | .error e => [e]

/-- An operation that a fault may interrupt. What is done before it depends on the part of a text
that gets through. -/
def attempt (operation : FileOperation) (paths : List Text)
    (whole : StateM World (Except FileError Unit)) (part : Nat → StateM World Unit) :
    StateM FaultyWorld (Except FileError Unit) := fun u =>
  let (result, world) :=
    match u.faults.head?.join with
    | none => whole.run u.world
    | some fault =>
      (.error ⟨operation, paths, fault.cause⟩, ((part fault.written).run u.world).2)
  (result, { world, faults := u.faults.tail, refused := u.refused ++ errors result })

instance : Host (StateM FaultyWorld) where
  status path := lift (Host.status path)
  load path := lift (Host.load path)
  save path text := lift (Host.save path text)
  makeDir path := lift (Host.makeDir path)
  entries path := lift (Host.entries path)
  createTemp dir start ending := lift (Host.createTemp dir start ending)
  append h text := attempt .writing [h.name] (Host.append h text) fun n => do
    let _ ← Host.append h (text.take n)
  close h := attempt .closing [h.name] (Host.close h) fun _ => do
    let _ ← Host.close h
  rename old new := attempt .renaming [old, new] (Host.rename old new) fun _ => return ()
  remove path := attempt .removing [path] (Host.remove path) fun _ => return ()
  removeTree path := lift (Host.removeTree path)
  workingDir := lift Host.workingDir
  environment name := lift (Host.environment name)
  clock := lift Host.clock
  timeStamp := lift Host.timeStamp
  startLog mode := lift (Host.startLog mode)
  log entry := lift (Logger.log entry)
  print text := lift (Host.print text)
  printError text := lift (Host.printError text)
  printsToTerminal := lift Host.printsToTerminal
  printsErrorsToTerminal := lift Host.printsErrorsToTerminal

/-! ## What is left of an operation -/

variable {u : FaultyWorld} {h : Handle}

theorem run_attempt (u : FaultyWorld) (operation : FileOperation) (paths : List Text)
    (whole : StateM World (Except FileError Unit)) (part : Nat → StateM World Unit) :
    ∃ result u', (attempt operation paths whole part).run u = (result, u') ∧
      u'.refused = u.refused ++ errors result ∧
      (whole.run u.world = (result, u'.world) ∨
        ∃ fault : Fault, result = .error ⟨operation, paths, fault.cause⟩ ∧
          ((part fault.written).run u.world).2 = u'.world) := by
  refine ⟨_, _, rfl, rfl, ?_⟩
  cases hfault : u.faults.head?.join with
  | none => exact .inl rfl
  | some fault => exact .inr ⟨fault, rfl, rfl⟩

/-- Writing to an open file adds a part of the text, and all of it if nothing is refused. -/
theorem run_append {id : Nat} (hopen : u.world.store.opened.lookup h.id = some id) (text : Text) :
    ∃ result u' n, (Host.append h text : StateM FaultyWorld _).run u = (result, u') ∧
      u'.world.store = u.world.store.putContent id (u.world.store.content id ++ text.take n) ∧
      (result = .ok () → text.take n = text) := by
  have happend (more : Text) : (Host.append h more : StateM World _).run u.world = (.ok (),
      { u.world with store := u.world.store.putContent id (u.world.store.content id ++ more) }) :=
    World.run_change_ok (by simp [Store.append, hopen])
  obtain ⟨result, u', hrun, -, hwhole | ⟨fault, rfl, hpart⟩⟩ := u.run_attempt .writing [h.name]
    (Host.append h text) (fun n => do let _ ← Host.append h (text.take n))
  · refine ⟨result, u', text.length, hrun, ?_, fun _ => List.take_length⟩
    rw [happend] at hwhole
    rw [← (Prod.mk.inj hwhole).2, List.take_length]
  · refine ⟨_, u', fault.written, hrun, ?_, fun hok => by cases hok⟩
    rw [run_bind (happend _)] at hpart
    rw [← hpart]
    rfl

/-- Writing to a file that is not open is refused. -/
theorem run_append_closed (hclosed : u.world.store.opened.lookup h.id = none) (text : Text) :
    ∃ e u', (Host.append h text : StateM FaultyWorld _).run u = (.error e, u') ∧
      u'.world = u.world := by
  have happend (more : Text) : (Host.append h more : StateM World _).run u.world =
      (.error ⟨.writing, [h.name], .alreadyClosed⟩, u.world) :=
    World.run_change_error (by simp [Store.append, hclosed])
  obtain ⟨result, u', hrun, -, hwhole | ⟨fault, rfl, hpart⟩⟩ := u.run_attempt .writing [h.name]
    (Host.append h text) (fun n => do let _ ← Host.append h (text.take n))
  · rw [happend] at hwhole
    obtain ⟨rfl, hworld⟩ := Prod.mk.inj hwhole
    exact ⟨_, u', hrun, hworld.symm⟩
  · rw [run_bind (happend _)] at hpart
    exact ⟨_, u', hrun, hpart.symm⟩

/-- Closing gives up the handle, whether it is refused or not. -/
theorem run_close {id : Nat} (hopen : u.world.store.opened.lookup h.id = some id) :
    ∃ result u', (Host.close h : StateM FaultyWorld _).run u = (result, u') ∧
      u'.world.store =
        { u.world.store with opened := u.world.store.opened.filter (·.1 != h.id) } := by
  have hclose : (Host.close h : StateM World _).run u.world = (.ok (), { u.world with
      store := { u.world.store with opened := u.world.store.opened.filter (·.1 != h.id) } }) :=
    World.run_change_ok (by simp [Store.close, hopen])
  obtain ⟨result, u', hrun, -, hwhole | ⟨fault, rfl, hpart⟩⟩ := u.run_attempt .closing [h.name]
    (Host.close h) (fun _ => do let _ ← Host.close h)
  · rw [hclose] at hwhole
    exact ⟨result, u', hrun, by rw [← (Prod.mk.inj hwhole).2]⟩
  · rw [run_bind hclose] at hpart
    exact ⟨_, u', hrun, by rw [← hpart]; rfl⟩

/-- Renaming is refused and changes nothing, or it is done. -/
theorem run_rename (u : FaultyWorld) (old new : Text) :
    ∃ result u', (Host.rename old new : StateM FaultyWorld _).run u = (result, u') ∧
      ((∃ e, result = .error e ∧ u'.world = u.world) ∨
        result = .ok () ∧ u.world.store.rename old new = .ok u'.world.store) := by
  obtain ⟨result, u', hrun, -, hwhole | ⟨fault, rfl, hpart⟩⟩ := u.run_attempt .renaming [old, new]
    (Host.rename old new) (fun _ => return ())
  · refine ⟨result, u', hrun, ?_⟩
    cases hrename : u.world.store.rename old new with
    | error e =>
      have := hwhole.symm.trans (World.run_change_error hrename)
      exact .inl ⟨e, Prod.mk.inj this⟩
    | ok store =>
      obtain ⟨rfl, hworld⟩ := Prod.mk.inj (hwhole.symm.trans (World.run_change_ok hrename))
      exact .inr ⟨rfl, by rw [hworld]⟩
  · exact ⟨_, u', hrun, .inl ⟨_, rfl, hpart.symm⟩⟩

/-- Removing is refused, changes nothing and is remembered, or it is done. -/
theorem run_remove (u : FaultyWorld) {path : Text} {store : Store}
    (hremove : u.world.store.remove path = .ok store) :
    ∃ result u', (Host.remove path : StateM FaultyWorld _).run u = (result, u') ∧
      ((∃ e ∈ u'.refused, e.operation = .removing) ∧ u'.world = u.world ∨
        result = .ok () ∧ u'.world.store = store) := by
  obtain ⟨result, u', hrun, hrefused, hwhole | ⟨fault, rfl, hpart⟩⟩ :=
    u.run_attempt .removing [path] (Host.remove path) (fun _ => return ())
  · obtain ⟨rfl, hworld⟩ := Prod.mk.inj (hwhole.symm.trans (World.run_change_ok hremove))
    exact ⟨_, u', hrun, .inr ⟨rfl, by rw [hworld]⟩⟩
  · refine ⟨_, u', hrun, .inl ⟨⟨⟨.removing, [path], fault.cause⟩, ?_, rfl⟩, hpart.symm⟩⟩
    simp [hrefused, errors]

end FaultyWorld

end AdtCompiler
