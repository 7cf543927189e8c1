import AdtCompiler.Emit
import Mathlib.Data.List.Forall2

/-!
# The life of targets

Whatever fails on the way, an emission asks for one target after the other in the order of the
document, and releases each before it asks for the next. To say so for every factory, the factory
is wrapped into one that keeps a log of what is done with its targets. The log changes nothing
else, so what it shows is what the emission does with the factory itself.

A log falls into visits, one for each unit. The proof follows the emission: what is written to a
target, what happens to one unit, and then, by induction over the data types, the whole run.

## Contents

- `TargetFactory.recorded`: the factory with a log
- `Visit` and `Course`: what happens for one unit, and in a whole run
- `LifeCycle`: what holds of every run
- `target_life_cycle`
-/

namespace AdtCompiler

/-! ## Logs -/

/-- What is done with the targets of a factory. Targets are numbered as they are created. -/
inductive LifeEvent where
  | refused (name : Text) (failure : Failure)
  | created (target : Nat) (name : Text)
  | wrote (target : Nat) (piece : Text) (failure : Option Failure)
  /-- The log notes whether the target could have been aborted. -/
  | closed (target : Nat) (abortable : Bool) (failure : Option Failure)
  | aborted (target : Nat) (failure : Option Failure)
deriving Repr, DecidableEq

namespace LifeEvent

/-- The unit that a target is asked for. -/
def attempt? : LifeEvent → Option Text
  | refused name _ => some name
  | created _ name => some name
  | _ => none

/-- The target that is created. -/
def created? : LifeEvent → Option Nat
  | created target _ => some target
  | _ => none

/-- The target that is released. -/
def released? : LifeEvent → Option Nat
  | closed target _ _ => some target
  | aborted target _ => some target
  | _ => none

/-- The open targets behind an event. -/
def track (opened : List Nat) : LifeEvent → List Nat
  | created target _ => target :: opened
  | closed target _ _ => opened.erase target
  | aborted target _ => opened.erase target
  | _ => opened

end LifeEvent

namespace LifeLog

/-- The units that targets are asked for. -/
def attempts (log : List LifeEvent) : List Text := log.filterMap LifeEvent.attempt?

/-- The targets that are created. -/
def created (log : List LifeEvent) : List Nat := log.filterMap LifeEvent.created?

/-- The targets that are released. -/
def released (log : List LifeEvent) : List Nat := log.filterMap LifeEvent.released?

/-- The targets that are open at the end. -/
def opened (log : List LifeEvent) : List Nat := log.foldl LifeEvent.track []

end LifeLog

instance [Monad m] [Logger m] : Logger (StateT (List LifeEvent) m) where
  log entry := StateT.lift (Logger.log entry)

/-- The factory with a log of what is done with its targets. -/
def TargetFactory.recorded [Monad m] (f : TargetFactory m) :
    TargetFactory (StateT (List LifeEvent) m) where
  Target := Nat × f.Target
  create name := do
    match ← f.create name with
    | .error failure =>
      modify (· ++ [.refused name failure])
      return .error failure
    | .ok target =>
      let number := (LifeLog.created (← get)).length
      modify (· ++ [.created number name])
      return .ok (number, target)
  info t := f.info t.2
  write t piece := do
    let (failure, target) ← f.write t.2 piece
    modify (· ++ [.wrote t.1 piece failure])
    return (failure, t.1, target)
  close t := do
    let (failure, target) ← f.close t.2
    modify (· ++ [.closed t.1 (f.abort? t.2).isSome failure])
    return (failure, t.1, target)
  abort? t := (f.abort? t.2).map fun (abort : m (Option Failure × f.Target)) => do
    let (failure, target) ← abort
    modify (· ++ [.aborted t.1 failure])
    return (failure, t.1, target)

/-! ## Units -/

/-- Writes to a target: all succeed but the last one, which may be the one behind which nothing
is written any more. -/
inductive Written : List Text → List (Text × Option Failure) → Option Failure → Prop where
  | nil : Written [] [] none
  | failed (piece : Text) (rest : List Text) (failure : Failure) :
      Written (piece :: rest) [(piece, some failure)] (some failure)
  | passed (piece : Text) {rest : List Text} {writes : List (Text × Option Failure)}
      {failure : Option Failure} :
      Written rest writes failure → Written (piece :: rest) ((piece, none) :: writes) failure

/-- How a target is released. -/
structure Release where
  closes : Bool
  abortable : Bool
  failure : Option Failure
deriving Repr, DecidableEq

/-- The event of a release. -/
def Release.event (target : Nat) (r : Release) : LifeEvent :=
  if r.closes then .closed target r.abortable r.failure else .aborted target r.failure

/-- What happens for one unit: its target is refused, or created, written to and released. -/
inductive Visit where
  | refused (name : Text) (failure : Failure)
  | served (target : Nat) (name : Text) (writes : List (Text × Option Failure)) (release : Release)
deriving Repr, DecidableEq

namespace Visit

/-- The unit. -/
def name : Visit → Text
  | refused name _ => name
  | served _ name _ _ => name

/-- The events of a visit. -/
def events : Visit → List LifeEvent
  | refused name failure => [.refused name failure]
  | served target name writes release =>
    .created target name :: (writes.map fun w => .wrote target w.1 w.2) ++ [release.event target]

/-- All pieces were written, and the rendering is complete. -/
def Rendered (rendering : Rendering) (writes : List (Text × Option Failure)) : Prop :=
  writes = rendering.pieces.map (·, none) ∧ rendering.ending = .complete

/-- All pieces were written, and then the renderer did not come back. -/
def Crashed (rendering : Rendering) (writes : List (Text × Option Failure)) : Prop :=
  writes = rendering.pieces.map (·, none) ∧ rendering.ending = .crashed

/-- A target gets the pieces of its unit up to the first that fails, and is closed if the unit was
rendered or the target cannot be aborted, and aborted otherwise. -/
def Follows (rendering : Rendering) : Visit → Prop
  | refused _ _ => True
  | served _ _ writes release =>
    (∃ failure, Written rendering.pieces writes failure) ∧
      (release.closes = true ↔ Rendered rendering writes ∨ release.abortable = false)

/-- A visit that ends the emission: the target was refused, or the renderer did not come back. -/
def Ends (rendering : Rendering) : Visit → Prop
  | refused _ _ => True
  | served _ _ writes _ => Crashed rendering writes

/-- The target was created, the unit was rendered, and the target was closed without failure. -/
def Succeeds (rendering : Rendering) : Visit → Prop
  | refused _ _ => False
  | served _ _ writes release =>
    Rendered rendering writes ∧ release.closes = true ∧ release.failure = none

/-- A target has the number that is next. -/
def Numbered (number : Nat) : Visit → Prop
  | refused _ _ => True
  | served target _ _ _ => target = number

end Visit

/-- Visits for data types, one after the other up to one that ends the emission. Targets are
numbered from `number` on. -/
def Course (doc : Doc) (render : DataType → Rendering) : (number : Nat) → List DataType →
    List Visit → Prop
  | _, [], visits => visits = []
  | _, _ :: _, [] => False
  | number, d :: rest, v :: visits =>
    v.name = doc.qualifiedName d ∧ v.Numbered number ∧ v.Follows (render d) ∧
      (v.Ends (render d) ∧ visits = [] ∨
        ¬ v.Ends (render d) ∧ Course doc render (number + 1) rest visits)

/-! ## Logs of visits -/

namespace LifeLog

theorem created_append (log log' : List LifeEvent) :
    created (log ++ log') = created log ++ created log' := List.filterMap_append

theorem created_flatMap (visits : List Visit) :
    created (visits.flatMap Visit.events) = visits.flatMap fun v => created v.events :=
  List.filterMap_flatMap

theorem opened_append (log log' : List LifeEvent) :
    opened (log ++ log') = log'.foldl LifeEvent.track (opened log) := List.foldl_append

/-- Writing opens and releases nothing. -/
theorem foldl_track_wrote {target : Nat} {log : List LifeEvent}
    (h : ∀ e ∈ log, ∃ piece failure, e = .wrote target piece failure) (open_ : List Nat) :
    log.foldl LifeEvent.track open_ = open_ := by
  induction log with
  | nil => rfl
  | cons e log ih =>
    obtain ⟨piece, failure, rfl⟩ := h e List.mem_cons_self
    exact ih fun e he => h e (List.mem_cons_of_mem _ he)

end LifeLog

namespace Visit

open LifeLog

theorem wrote_of_mem {target : Nat} {writes : List (Text × Option Failure)} :
    ∀ e ∈ writes.map fun w => LifeEvent.wrote target w.1 w.2,
      ∃ piece failure, e = .wrote target piece failure := by
  intro e he
  obtain ⟨w, -, rfl⟩ := List.mem_map.mp he
  exact ⟨_, _, rfl⟩

theorem created_events (v : Visit) :
    created v.events = match v with
      | refused _ _ => []
      | served target _ _ _ => [target] := by
  cases v with
  | refused => rfl
  | served target name writes release =>
    cases hcloses : release.closes <;>
      simp [events, created, LifeEvent.created?, Release.event, hcloses, Function.comp_def]

/-- In a visit, what is created is released. -/
theorem released_events (v : Visit) : released v.events = created v.events := by
  rw [created_events]
  cases v with
  | refused => rfl
  | served target name writes release =>
    have hcreated : LifeEvent.released? (.created target name) = none := rfl
    rw [released, events, List.cons_append, List.filterMap_cons_none hcreated]
    cases hcloses : release.closes <;>
      simp [LifeEvent.released?, Release.event, hcloses, Function.comp_def]

theorem attempts_events (v : Visit) : attempts v.events = [v.name] := by
  cases v with
  | refused => rfl
  | served target name writes release =>
    cases hcloses : release.closes <;>
      simp [events, attempts, LifeEvent.attempt?, Release.event, hcloses, Function.comp_def,
        Visit.name]

/-- Only the first event of a visit asks for a target. -/
theorem eq_nil_of_attempt {v : Visit} {before after : List LifeEvent} {e : LifeEvent}
    (h : v.events = before ++ e :: after) (hattempt : e.attempt?.isSome) : before = [] := by
  cases before with
  | nil => rfl
  | cons first before =>
    obtain ⟨name, hname⟩ := Option.isSome_iff_exists.mp hattempt
    have hfirst : first.attempt? = some v.name := by
      cases v <;> rw [events, List.cons_append] at h <;> injection h with h <;> rw [← h] <;> rfl
    have hlength := congrArg List.length (attempts_events v)
    simp [h, attempts, hfirst, hname] at hlength

theorem opened_created (target : Nat) (name : Text) {log : List LifeEvent}
    (h : ∀ e ∈ log, ∃ piece failure, e = .wrote target piece failure) :
    opened (.created target name :: log) = [target] :=
  foldl_track_wrote h [target]

/-- No target stays open behind a visit. -/
theorem opened_events (v : Visit) : opened v.events = [] := by
  cases v with
  | refused => rfl
  | served target name writes release =>
    rw [events, opened_append, opened_created target name wrote_of_mem]
    cases hcloses : release.closes <;> simp [Release.event, hcloses, LifeEvent.track]

theorem length_opened_le {v : Visit} {before : List LifeEvent} (h : before <+: v.events) :
    (opened before).length ≤ 1 := by
  cases v with
  | refused name failure =>
    rcases List.prefix_cons_iff.mp h with rfl | ⟨behind, rfl, hbehind⟩
    · exact Nat.zero_le 1
    · cases List.prefix_nil.mp hbehind
      exact Nat.zero_le 1
  | served target name writes release =>
    -- all events but the last stand before the release, and only the first of them opens a target
    rcases List.prefix_concat_iff.mp h with rfl | h
    · exact (opened_events (.served target name writes release)) ▸ Nat.zero_le 1
    · rcases List.prefix_cons_iff.mp h with rfl | ⟨behind, rfl, hbehind⟩
      · exact Nat.zero_le 1
      · rw [opened_created target name fun e he => wrote_of_mem e (hbehind.subset he)]
        exact Nat.le_refl 1

end Visit

namespace LifeLog

/-- At most one target is open at any time. -/
theorem length_opened_flatMap_le {visits : List Visit} {before : List LifeEvent}
    (h : before <+: visits.flatMap Visit.events) : (opened before).length ≤ 1 := by
  induction visits generalizing before with
  | nil => simp_all [opened]
  | cons v visits ih =>
    obtain ⟨after, h⟩ := h
    rw [List.flatMap_cons] at h
    rcases List.append_eq_append_iff.mp h with ⟨rest, hv, -⟩ | ⟨behind, rfl, hbehind⟩
    · exact Visit.length_opened_le ⟨rest, hv.symm⟩
    · rw [opened_append, Visit.opened_events]
      exact ih ⟨after, hbehind.symm⟩

/-- No target is open where one is asked for. -/
theorem opened_before_attempt {visits : List Visit} {before after : List LifeEvent} {e : LifeEvent}
    (h : visits.flatMap Visit.events = before ++ e :: after) (hattempt : e.attempt?.isSome) :
    opened before = [] := by
  induction visits generalizing before with
  | nil => simp at h
  | cons v visits ih =>
    rw [List.flatMap_cons] at h
    -- the event lies in a later visit, behind a visit that left nothing open, or in this one
    rcases List.append_eq_append_iff.mp h with ⟨behind, rfl, hbehind⟩ | ⟨rest, hv, hrest⟩
    · rw [opened_append, Visit.opened_events]
      exact ih hbehind
    · cases rest with
      | nil =>
        rw [List.append_nil] at hv
        rw [← hv, Visit.opened_events]
      | cons first rest =>
        -- a target is asked for at the beginning of a visit only
        obtain ⟨rfl, -⟩ := List.cons.inj hrest
        rw [Visit.eq_nil_of_attempt hv hattempt]
        rfl

end LifeLog

/-! ## Courses -/

namespace Course

variable {doc : Doc} {render : DataType → Rendering} {number : Nat} {types : List DataType}
  {visits : List Visit}

/-- The rest of a course is a course. -/
theorem drop (h : Course doc render number types visits) {place : Nat}
    (hplace : place < visits.length) :
    Course doc render (number + place) (types.drop place) (visits.drop place) := by
  induction place generalizing number types visits with
  | zero => exact h
  | succ place ih =>
    match types, visits, h with
    | d :: rest, v :: visits, ⟨_, _, _, .inl ⟨_, hnil⟩⟩ => simp [hnil] at hplace
    | d :: rest, v :: visits, ⟨_, _, _, .inr ⟨_, hrest⟩⟩ =>
      have hdrop := ih hrest (by simpa using hplace)
      rwa [Nat.add_assoc, Nat.add_comm 1] at hdrop

/-- A visit of a course is the one of the data type at its place, and it is the last one exactly
if it ends the emission or there are no more data types. -/
theorem visit (h : Course doc render number types visits) {place : Nat} {v : Visit}
    (hv : visits[place]? = some v) :
    ∃ d, types[place]? = some d ∧ v.name = doc.qualifiedName d ∧ v.Follows (render d) ∧
      (v.Ends (render d) → place + 1 = visits.length) ∧
      (¬ v.Ends (render d) → place + 1 < types.length → place + 1 < visits.length) := by
  obtain ⟨hplace, hget⟩ := List.getElem?_eq_some_iff.mp hv
  -- from its place on, a course is a course again, and the visit is its first one
  have hdrop := h.drop hplace
  rw [List.drop_eq_getElem_cons hplace, hget] at hdrop
  cases htypes : types.drop place with
  | nil =>
    rw [htypes] at hdrop
    cases hdrop
  | cons d rest =>
    rw [htypes] at hdrop
    obtain ⟨hname, -, hfollows, hgoes⟩ := hdrop
    have hd : types[place]? = some d := by
      rw [← List.head?_drop, htypes, List.head?_cons]
    refine ⟨d, hd, hname, hfollows, fun hends => ?_, fun hends hmore => ?_⟩
    · rcases hgoes with ⟨-, hnil⟩ | ⟨hnot, -⟩
      · have := List.drop_eq_nil_iff.mp hnil
        omega
      · exact absurd hends hnot
    · rcases hgoes with ⟨hyes, -⟩ | ⟨-, hrest⟩
      · exact absurd hyes hends
      · -- a visit that does not end the emission leaves a course over the rest, which is not empty
        by_contra hlast
        have hnil : visits.drop (place + 1) = [] := List.drop_eq_nil_iff.mpr (by omega)
        have hcons : rest ≠ [] := by
          intro hrestNil
          have := congrArg List.length htypes
          simp [hrestNil] at this
          omega
        obtain ⟨e, rest, rfl⟩ := List.exists_cons_of_ne_nil hcons
        rw [hnil] at hrest
        exact hrest

/-- The targets of a course have different numbers: each is smaller than those that follow. -/
theorem created_nodup (h : Course doc render number types visits) :
    (LifeLog.created (visits.flatMap Visit.events)).Nodup ∧
      ∀ target ∈ LifeLog.created (visits.flatMap Visit.events), number ≤ target := by
  rw [LifeLog.created_flatMap]
  induction types generalizing number visits with
  | nil => simp [show visits = [] from h]
  | cons d rest ih =>
    match visits, h with
    | v :: visits, ⟨_, hnumbered, _, hgoes⟩ =>
      -- targets of the visits behind this one have numbers above its own
      have hrest : (visits.flatMap fun v => LifeLog.created v.events).Nodup ∧
          ∀ target ∈ visits.flatMap fun v => LifeLog.created v.events, number < target := by
        rcases hgoes with ⟨-, rfl⟩ | ⟨-, hrest⟩
        · simp
        · exact ih hrest
      rw [List.flatMap_cons, Visit.created_events]
      cases v with
      | refused => exact ⟨hrest.1, fun target ht => Nat.le_of_lt (hrest.2 target ht)⟩
      | served target name writes release =>
        cases (hnumbered : target = number)
        refine ⟨List.nodup_cons.mpr ⟨fun ht => Nat.lt_irrefl _ (hrest.2 _ ht), hrest.1⟩, ?_⟩
        rw [List.singleton_append, List.forall_mem_cons]
        exact ⟨Nat.le_refl _, fun target ht => Nat.le_of_lt (hrest.2 target ht)⟩

/-- Data types are visited in their order. -/
theorem names (h : Course doc render number types visits) :
    visits.map Visit.name <+: types.map doc.qualifiedName := by
  induction types generalizing number visits with
  | nil => simp [show visits = [] from h]
  | cons d rest ih =>
    match visits, h with
    | v :: visits, ⟨hname, _, _, hgoes⟩ =>
      rw [List.map_cons, List.map_cons, hname, List.prefix_cons_inj]
      rcases hgoes with ⟨-, rfl⟩ | ⟨-, hrest⟩
      · exact List.nil_prefix
      · exact ih hrest

end Course

/-! ## Runs with a log -/

section Runs

variable {σ : Type} (f : TargetFactory (StateM σ))

theorem run_bind {α β : Type} {x : StateM σ α} {a : α} {s s' : σ} (h : x.run s = (a, s'))
    (g : α → StateM σ β) : (x >>= g).run s = (g a).run s' := by
  have hbind : (x >>= g).run s = (g (x.run s).1).run (x.run s).2 := rfl
  rw [hbind, h]

theorem recorded_bind {α β : Type} {x : StateT (List LifeEvent) (StateM σ) α} {a : α}
    {log log' : List LifeEvent} {s s' : σ} (h : (x.run log).run s = ((a, log'), s'))
    (g : α → StateT (List LifeEvent) (StateM σ) β) :
    ((x >>= g).run log).run s = ((g a).run log').run s' := by
  have hbind : ((x >>= g).run log).run s =
      ((g ((x.run log).run s).1.1).run ((x.run log).run s).1.2).run ((x.run log).run s).2 := rfl
  rw [hbind, h]

theorem recorded_log [Logger (StateM σ)] (entry : LogEntry) (log : List LifeEvent) (s : σ) :
    ((Logger.log entry : StateT (List LifeEvent) (StateM σ) Unit).run log).run s =
      (((), log), ((Logger.log entry : StateM σ Unit).run s).2) := rfl

theorem recorded_lift {α : Type} {x : StateM σ α} {a : α} {s s' : σ} (h : x.run s = (a, s'))
    (log : List LifeEvent) :
    ((liftM x : StateT (List LifeEvent) (StateM σ) α).run log).run s = ((a, log), s') := by
  have hlift : ((liftM x : StateT (List LifeEvent) (StateM σ) α).run log).run s =
      (((x.run s).1, log), (x.run s).2) := rfl
  rw [hlift, h]

theorem recorded_create_error {name : Text} {failure : Failure} {s s' : σ}
    (h : (f.create name).run s = (.error failure, s')) (log : List LifeEvent) :
    ((f.recorded.create name).run log).run s =
      ((.error failure, log ++ [.refused name failure]), s') :=
  recorded_bind (recorded_lift h log) _

theorem recorded_create_ok {name : Text} {target : f.Target} {s s' : σ}
    (h : (f.create name).run s = (.ok target, s')) (log : List LifeEvent) :
    ((f.recorded.create name).run log).run s =
      ((.ok ((LifeLog.created log).length, target),
        log ++ [.created (LifeLog.created log).length name]), s') :=
  recorded_bind (recorded_lift h log) _

/-- Writing to a recorded target writes to the target and to the log. -/
theorem recorded_write {number : Nat} {target target' : f.Target} {piece : Text} {s s' : σ}
    {failure : Option Failure} (h : (f.write target piece).run s = ((failure, target'), s'))
    (log : List LifeEvent) :
    ((f.recorded.write (number, target) piece).run log).run s =
      (((failure, number, target'), log ++ [.wrote number piece failure]), s') :=
  recorded_bind (recorded_lift h log) _

theorem recorded_close {number : Nat} {target target' : f.Target} {s s' : σ}
    {failure : Option Failure} (h : (f.close target).run s = ((failure, target'), s'))
    (log : List LifeEvent) :
    ((f.recorded.close (number, target)).run log).run s =
      (((failure, number, target'),
        log ++ [.closed number (f.abort? target).isSome failure]), s') :=
  recorded_bind (recorded_lift h log) _

/-- Discarding a recorded target aborts it if it can be aborted, and closes it otherwise. -/
theorem recorded_discard {number : Nat} {target target' : f.Target} {s s' : σ}
    {failure : Option Failure} (h : (f.discard target).run s = ((failure, target'), s'))
    (log : List LifeEvent) :
    ((f.recorded.discard (number, target)).run log).run s =
      (((failure, number, target'), log ++ [Release.event number
        ⟨(f.abort? target).isNone, (f.abort? target).isSome, failure⟩]), s') := by
  unfold TargetFactory.discard at h
  cases habort : f.abort? target with
  | none =>
    rw [habort] at h
    have hdiscard : f.recorded.discard (number, target) = f.recorded.close (number, target) := by
      simp only [TargetFactory.discard, TargetFactory.recorded, habort, Option.map_none]
    rw [hdiscard, recorded_close f h, habort]
    rfl
  | some abort =>
    rw [habort] at h
    simp only [TargetFactory.discard, TargetFactory.recorded, habort, Option.map_some]
    exact recorded_bind (recorded_lift h log) _

theorem exists_writes (target : f.Target) (pieces : List Text) (s : σ) :
    ∃ writes failure target' s',
      (writePieces f.write target pieces).run s = ((failure, target'), s') ∧
      Written pieces writes failure ∧
      ∀ number log, ((writePieces f.recorded.write (number, target) pieces).run log).run s =
        (((failure, number, target'),
          log ++ writes.map fun w => .wrote number w.1 w.2), s') := by
  -- the run and the run with the log go side by side: each write makes the same step in both, and
  -- the log grows by its event
  induction pieces generalizing target s with
  | nil => exact ⟨[], none, target, s, rfl, .nil, fun number log => by simp [writePieces]; rfl⟩
  | cons piece rest ih =>
    obtain ⟨⟨⟨failure, target'⟩, s'⟩, hwrite⟩ : ∃ r, (f.write target piece).run s = r := ⟨_, rfl⟩
    cases failure with
    | some failure =>
      refine ⟨_, _, target', s', ?_, .failed piece rest failure, fun number log => ?_⟩
      · exact run_bind hwrite _
      · exact recorded_bind (recorded_write f hwrite log) _
    | none =>
      obtain ⟨writes, failure, target'', s'', hrest, hwritten, hlog⟩ := ih target' s'
      refine ⟨_, failure, target'', s'', ?_, .passed piece hwritten, fun number log => ?_⟩
      · exact (run_bind hwrite _).trans hrest
      · refine (recorded_bind (recorded_write f hwrite log) _).trans ?_
        have hafter := hlog number (log ++ [.wrote number piece none])
        rw [List.append_assoc] at hafter
        exact hafter

theorem Written.eq_none_iff {pieces : List Text} {writes : List (Text × Option Failure)}
    {failure : Option Failure} (h : Written pieces writes failure) :
    failure = none ↔ writes = pieces.map (·, none) := by
  induction h with
  | nil => simp
  | failed => simp
  | passed piece _ ih => simp [ih]

theorem exists_writeUnit (target : f.Target) (name : Text) (rendering : Rendering) (s : σ) :
    ∃ writes ending target' s',
      (Emit.writeUnit f target name rendering).run s = ((ending, target'), s') ∧
      (∃ failure, Written rendering.pieces writes failure) ∧
      (ending = .done ↔ Visit.Rendered rendering writes) ∧
      (ending = .crashed ↔ Visit.Crashed rendering writes) ∧
      ∀ number log, ((Emit.writeUnit f.recorded (number, target) name rendering).run log).run s =
        (((ending, number, target'), log ++ writes.map fun w => .wrote number w.1 w.2), s') := by
  obtain ⟨writes, failure, target', s', hrun, hwritten, hlog⟩ :=
    exists_writes f target rendering.pieces s
  have hall := hwritten.eq_none_iff
  unfold Visit.Rendered Visit.Crashed
  cases failure with
  | some failure =>
    -- a write that failed is the end of the rendering, whatever the renderer would have said
    refine ⟨writes, _, target', s', run_bind hrun _, ⟨_, hwritten⟩, ?_, ?_,
      fun number log => recorded_bind (hlog number log) _⟩
    · simpa using fun h => absurd (hall.mpr h) (by simp)
    · simpa using fun h => absurd (hall.mpr h) (by simp)
  | none =>
    -- all pieces were written, so the ending is what the renderer says
    have hpieces := hall.mp rfl
    obtain ⟨pieces, ending⟩ := rendering
    cases ending <;>
      exact ⟨writes, _, target', s', run_bind hrun _, ⟨_, hwritten⟩, by simp [hpieces],
        by simp [hpieces], fun number log => recorded_bind (hlog number log) _⟩

/-- The release of a recorded target. -/
theorem exists_release (target : f.Target) (ending : EmitEnd) (s : σ) :
    ∃ (release : Release) (ending' : EmitEnd) (s' : σ),
      (Emit.releaseUnit f target ending).run s = (ending', s') ∧
      (release.closes = true ↔ ending = .done ∨ release.abortable = false) ∧
      (ending' = .crashed ↔ ending = .crashed) ∧
      (ending' = .done ↔ ending = .done ∧ release.closes = true ∧ release.failure = none) ∧
      ∀ number log, ((Emit.releaseUnit f.recorded (number, target) ending).run log).run s =
        ((ending', log ++ [release.event number]), s') := by
  -- a complete unit is closed; any other one is discarded, which is an abort where there is one and
  -- a close otherwise
  by_cases hend : ending = .done
  · subst hend
    obtain ⟨⟨⟨failure, closed⟩, s'⟩, hclose⟩ : ∃ r, (f.close target).run s = r := ⟨_, rfl⟩
    refine ⟨⟨true, (f.abort? target).isSome, failure⟩,
      failure.elim .done fun e => .failed (e.during (.closing (f.info target))), s',
      ?_, by simp, ?_, ?_, fun number log => ?_⟩
    · refine (run_bind hclose _).trans ?_
      cases failure <;> rfl
    · cases failure <;> simp
    · cases failure <;> simp
    · refine (recorded_bind (recorded_close f hclose log) _).trans ?_
      cases failure <;> rfl
  · obtain ⟨⟨⟨failure, discarded⟩, s'⟩, hdiscard⟩ : ∃ r, (f.discard target).run s = r := ⟨_, rfl⟩
    refine ⟨⟨(f.abort? target).isNone, (f.abort? target).isSome, failure⟩, ending, s', ?_,
      by simp [hend], .rfl, by simp [hend], fun number log => ?_⟩
    · rw [Emit.releaseUnit, if_neg hend]
      exact run_bind hdiscard _
    · unfold Emit.releaseUnit
      rw [if_neg hend]
      exact recorded_bind (recorded_discard f hdiscard log) _

theorem orElse_eq_done {first later : EmitEnd} :
    Emit.EmitEnd.orElse first later = .done ↔ first = .done ∧ later = .done := by
  cases first <;> simp [Emit.EmitEnd.orElse]

variable [Logger (StateM σ)]

/-- The emission of a unit with a recorded target: pieces are written, and the target is
released. -/
theorem exists_visit (target : f.Target) (name : Text) (rendering : Rendering) (s : σ) :
    ∃ writes release ending s',
      (Emit.emitUnit f target name rendering).run s = (ending, s') ∧
      (∀ number, Visit.Follows rendering (.served number name writes release)) ∧
      (ending = .crashed ↔ Visit.Crashed rendering writes) ∧
      (∀ number, ending = .done ↔ Visit.Succeeds rendering (.served number name writes release)) ∧
      ∀ number log, ((Emit.emitUnit f.recorded (number, target) name rendering).run log).run s =
        ((ending, log ++ ((writes.map fun w => .wrote number w.1 w.2) ++ [release.event number])),
          s') := by
  obtain ⟨writes, rendered, target', s', hwrite, hwritten, hrendered, hcrashed, hwrites⟩ :=
    exists_writeUnit f target name rendering
      ((Logger.log (Emit.unitEntry (f.info target)) : StateM σ Unit).run s).2
  obtain ⟨release, ending, s'', hrelease, hcloses, hcrash, hdone, hreleased⟩ :=
    exists_release f target' rendered s'
  refine ⟨writes, release, ending, s'', ?_, fun _ => ⟨hwritten, ?_⟩, hcrash.trans hcrashed,
    fun _ => ?_, fun number log => ?_⟩
  · exact (run_bind rfl _).trans ((run_bind hwrite _).trans hrelease)
  · rw [← hrendered]
    exact hcloses
  · rw [Visit.Succeeds, ← hrendered]
    exact hdone
  · -- the event of the release goes behind those of the writes
    have hafter := hreleased number (log ++ writes.map fun w => .wrote number w.1 w.2)
    rw [List.append_assoc] at hafter
    exact (recorded_bind (recorded_log _ log s) _).trans
      ((recorded_bind (hwrites number log) _).trans hafter)

/-- The emission of data types with recorded targets runs a course. -/
theorem exists_course (backend : Backend) (doc : Doc) (header : Text) (types : List DataType)
    (first : EmitEnd) (number : Nat) (s : σ) :
    ∃ visits ending s',
      (Emit.emitUnits backend f doc header first types).run s = (ending, s') ∧
      Course doc (backend.render doc · header) number types visits ∧
      (ending = .done ↔ first = .done ∧
        List.Forall₂ (fun d v => Visit.Succeeds (backend.render doc d header) v) types visits) ∧
      ∀ log, (LifeLog.created log).length = number →
        ((Emit.emitUnits backend f.recorded doc header first types).run log).run s =
          ((ending, log ++ visits.flatMap Visit.events), s') := by
  -- by induction over the data types that are left; the number of the next target is the number of
  -- targets in the log so far
  induction types generalizing first number s with
  | nil =>
    refine ⟨[], first, s, rfl, rfl, by simp, fun log _ => ?_⟩
    rw [List.flatMap_nil, List.append_nil]
    rfl
  | cons d rest ih =>
    obtain ⟨⟨created, s'⟩, hcreate⟩ : ∃ r, (f.create (doc.qualifiedName d)).run s = r := ⟨_, rfl⟩
    cases created with
    | error failure =>
      -- a target that is refused ends the course
      refine ⟨[.refused (doc.qualifiedName d) failure], _, s', run_bind hcreate _,
        ⟨rfl, trivial, trivial, .inl ⟨trivial, rfl⟩⟩, ?_,
        fun log _ => recorded_bind (recorded_create_error f hcreate log) _⟩
      simp [orElse_eq_done, Visit.Succeeds]
    | ok target =>
      obtain ⟨writes, release, ending, s'', hunit, hfollows, hcrashed, hdone, hlog⟩ :=
        exists_visit f target (doc.qualifiedName d) (backend.render doc d header) s'
      let v := Visit.served number (doc.qualifiedName d) writes release
      -- the steps of this unit with the log: the target gets the next number, and the visit follows
      have hcreated : ∀ log, (LifeLog.created log).length = number →
          ((f.recorded.create (doc.qualifiedName d)).run log).run s =
            ((.ok (number, target), log ++ [.created number (doc.qualifiedName d)]), s') := by
        rintro log rfl
        exact recorded_create_ok f hcreate log
      have hemitted : ∀ log, ((Emit.emitUnit f.recorded (number, target) (doc.qualifiedName d)
          (backend.render doc d header)).run
            (log ++ [.created number (doc.qualifiedName d)])).run s' =
          ((ending, log ++ v.events), s'') := by
        intro log
        rw [hlog, List.append_assoc]
        rfl
      -- only a crash keeps the emission from going on with the next data type
      by_cases hcrash : ending = .crashed
      · subst hcrash
        refine ⟨[v], .crashed, s'', (run_bind hcreate _).trans (run_bind hunit _),
          ⟨rfl, rfl, hfollows number, .inl ⟨hcrashed.mp rfl, rfl⟩⟩, ?_, fun log hlength => ?_⟩
        · simp [v, ← hdone]
        · rw [List.flatMap_singleton]
          exact (recorded_bind (hcreated log hlength) _).trans (recorded_bind (hemitted log) _)
      · obtain ⟨visits, ending', s₃, hrun, hcourse, hall, hrest⟩ :=
          ih (Emit.EmitEnd.orElse first ending) (number + 1) s''
        refine ⟨v :: visits, ending', s₃, ?_, ⟨rfl, rfl, hfollows number,
          .inr ⟨fun hends => hcrash (hcrashed.mpr hends), hcourse⟩⟩, ?_, fun log hlength => ?_⟩
        · refine (run_bind hcreate _).trans ((run_bind hunit _).trans ?_)
          rw [if_neg hcrash]
          exact hrun
        · rw [hall, orElse_eq_done, List.forall₂_cons, hdone number, and_assoc]
        · refine (recorded_bind (hcreated log hlength) _).trans
            ((recorded_bind (hemitted log) _).trans ?_)
          rw [if_neg hcrash, List.flatMap_cons, ← List.append_assoc]
          refine hrest _ ?_
          rw [LifeLog.created_append, List.length_append, hlength, Visit.created_events]
          rfl

end Runs

/-! ## The life cycle -/

/-- What holds of every emission with the log of the visits, whatever fails on the way. -/
structure LifeCycle (doc : Doc) (render : DataType → Rendering) (visits : List Visit)
    (log : List LifeEvent) (ending : EmitEnd) : Prop where
  /-- The log falls into visits, -/
  visited : log = visits.flatMap Visit.events
  /-- one for each data type that was tried, in the order of the document. -/
  inOrder : LifeLog.attempts log = visits.map Visit.name ∧
    visits.map Visit.name <+: doc.types.map doc.qualifiedName
  /-- At most one target is open at any time, -/
  oneOpen : ∀ before, before <+: log → (LifeLog.opened before).length ≤ 1
  /-- and none where a target is asked for. -/
  noneOpen : ∀ before e after, log = before ++ e :: after → e.attempt?.isSome →
    LifeLog.opened before = []
  /-- Every target that was created was released exactly once. -/
  releasedOnce : (LifeLog.created log).Nodup ∧ LifeLog.released log = LifeLog.created log
  /-- It was closed if its unit was rendered or it cannot be aborted, and aborted otherwise. -/
  follows : ∀ (place : Nat) (v : Visit), visits[place]? = some v →
    ∃ d, doc.types[place]? = some d ∧ v.name = doc.qualifiedName d ∧ v.Follows (render d)
  /-- No data type is passed over at the start, -/
  begins : doc.isComplete = true → doc.types ≠ [] → visits ≠ []
  /-- or behind a unit that could not be rendered or closed. -/
  goesOn : ∀ (place : Nat) (v : Visit) (d : DataType), visits[place]? = some v →
    doc.types[place]? = some d → ¬ v.Ends (render d) → place + 1 < doc.types.length →
      place + 1 < visits.length
  /-- Nothing follows a target that was refused, or the release of the target of a unit whose
  renderer did not come back. -/
  stops : ∀ (place : Nat) (v : Visit) (d : DataType), visits[place]? = some v →
    doc.types[place]? = some d → v.Ends (render d) → place + 1 = visits.length
  /-- The emission succeeds exactly if the target of every data type was created, its unit was
  rendered, and it was closed without failure. -/
  succeeds : ending = .done ↔ List.Forall₂ (fun d v => v.Succeeds (render d)) doc.types visits

/-- A course over all data types of a document is a life cycle. -/
theorem Course.lifeCycle {doc : Doc} {render : DataType → Rendering} {visits : List Visit}
    {ending : EmitEnd} (h : Course doc render 0 doc.types visits)
    (hdone : ending = .done ↔ List.Forall₂ (fun d v => v.Succeeds (render d)) doc.types visits) :
    LifeCycle doc render visits (visits.flatMap Visit.events) ending where
  visited := rfl
  inOrder := by
    refine ⟨?_, h.names⟩
    rw [LifeLog.attempts, List.filterMap_flatMap]
    exact (List.flatMap_congr fun v _ => v.attempts_events).trans List.map_eq_flatMap.symm
  oneOpen _ hbefore := LifeLog.length_opened_flatMap_le hbefore
  noneOpen _ _ _ hlog hattempt := LifeLog.opened_before_attempt hlog hattempt
  releasedOnce := by
    refine ⟨h.created_nodup.1, ?_⟩
    rw [LifeLog.created_flatMap, LifeLog.released, List.filterMap_flatMap]
    exact List.flatMap_congr fun v _ => v.released_events
  follows place v hv := by
    obtain ⟨d, hd, hname, hfollows, -⟩ := h.visit hv
    exact ⟨d, hd, hname, hfollows⟩
  begins _ htypes := by
    rintro rfl
    obtain ⟨d, rest, hcons⟩ := List.exists_cons_of_ne_nil htypes
    rw [hcons] at h
    exact h
  goesOn place v d hv hd hends hmore := by
    obtain ⟨d', hd', -, -, -, hgoes⟩ := h.visit hv
    cases hd.symm.trans hd'
    exact hgoes hends hmore
  stops place v d hv hd hends := by
    obtain ⟨d', hd', -, -, hstops, -⟩ := h.visit hv
    cases hd.symm.trans hd'
    exact hstops hends
  succeeds := hdone

/-- A document that cannot be printed has a type that is missing, and so a data type. -/
theorem LifeCycle.of_incomplete {doc : Doc} {render : DataType → Rendering}
    (h : doc.isComplete = false) : LifeCycle doc render [] [] .crashed where
  visited := rfl
  inOrder := ⟨rfl, List.nil_prefix⟩
  oneOpen before hbefore := by
    rw [List.prefix_nil.mp hbefore]
    exact Nat.zero_le 1
  noneOpen before e after hlog := by simp at hlog
  releasedOnce := ⟨List.nodup_nil, rfl⟩
  follows place v hv := by simp at hv
  begins hcomplete := by simp [h] at hcomplete
  goesOn place v d hv := by simp at hv
  stops place v d hv := by simp at hv
  succeeds := by
    -- where nothing is to be visited, no type is missing
    have htypes : doc.types ≠ [] := by
      intro hnil
      simp [Doc.isComplete, hnil] at h
    simpa using htypes

/-- **The life of targets.** For every document, every back end and every factory, whatever its
targets do, the emission goes through the life cycle of its targets. The log that shows it comes
from the same run: it changes neither how the emission ends nor what it does. -/
theorem target_life_cycle {σ : Type} [Logger (StateM σ)] (doc : Doc) (backend : Backend)
    (version : Text) (f : TargetFactory (StateM σ)) (s : σ) :
    ∃ visits log ending s',
      (doc.emit backend version f).run s = (ending, s') ∧
      ((doc.emit backend version f.recorded).run []).run s = ((ending, log), s') ∧
      LifeCycle doc
        (backend.render doc · (backend.header doc version (doc.provenance version)))
        visits log ending := by
  obtain ⟨s₀, hstart⟩ : ∃ s₀, (Logger.log (Emit.startEntry backend doc) : StateM σ Unit).run s =
    ((), s₀) := ⟨_, rfl⟩
  have hstarted : ((Logger.log (Emit.startEntry backend doc) :
      StateT (List LifeEvent) (StateM σ) Unit).run []).run s = (((), []), s₀) := by
    rw [recorded_log, hstart]
  -- the provenance is printed first, so a document with a missing type crashes before any target
  cases hcomplete : doc.isComplete with
  | false =>
    refine ⟨[], [], .crashed, s₀, (run_bind hstart _).trans ?_,
      (recorded_bind hstarted _).trans ?_, .of_incomplete hcomplete⟩
    · rw [Doc.provenance?, Doc.written?_of_incomplete hcomplete]
      rfl
    · rw [Doc.provenance?, Doc.written?_of_incomplete hcomplete]
      rfl
  | true =>
    obtain ⟨visits, ending, s', hrun, hcourse, hdone, hlog⟩ :=
      exists_course f backend doc (backend.header doc version (doc.provenance version)) doc.types
        .done 0 s₀
    refine ⟨visits, _, ending, s', (run_bind hstart _).trans ?_,
      (recorded_bind hstarted _).trans ?_, hcourse.lifeCycle (by simpa using hdone)⟩
    · rw [Doc.provenance?, Doc.written?_of_complete hcomplete]
      exact hrun
    · rw [Doc.provenance?, Doc.written?_of_complete hcomplete]
      exact hlog [] rfl

end AdtCompiler
