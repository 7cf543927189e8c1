import AdtCompiler.Proofs.SourceJob

/-!
# Histories of a cache

A cache is used by many runs, with edits between them. All that is known about one of its entries
is that some job of the past recorded it, provided that no edit makes entries.

## Contents

- `History`: the worlds that jobs and edits lead to
- `History.entry_of_held`: every entry was recorded by a job with its key
- `MakesHistory.generate`: runs, whatever they are asked for, make histories
-/

namespace AdtCompiler

open Store (Rewrites NoNewEntries)

/-! ## Histories -/

/-- The worlds to which work on sources and edits lead from a world without cache entries, with the
jobs on the way. An edit may change everything, as long as it makes no new cache entries. -/
inductive History : List Job → World → Prop where
  | start {w : World} (hs : w.store.Numbered)
      (hnone : ∀ key q x, EntryPlace key q → w.store.held q ≠ some (.file x)) : History [] w
  | edit {h : List Job} {w w' : World} (hw : History h w)
      (hedit : NoNewEntries w.store w'.store) : History h w'
  | source {h : List Job} {w : World} (hw : History h w) {plan : GenerationPlan}
      (hplan : plan.Proper) (g : Generation) (path : Text) :
      History (h ++ (g.job? plan path w).toList) ((g.source plan path : StateM World _).run w).2

namespace Generation

variable {g : Generation} {plan : GenerationPlan} {path : Text} {w : World} {j : Job}

theorem plan_of_job? (h : g.job? plan path w = some j) : j.plan = plan := by
  obtain ⟨bytes, -, rfl⟩ := Option.map_eq_some_iff.mp h
  rfl

end Generation

namespace History

variable {h : List Job} {w : World} {j : Job}

theorem numbered (hw : History h w) : w.store.Numbered := by
  induction hw with
  | start hs => exact hs
  | edit _ hedit => exact hedit.numbered
  | source hw hplan g path ih =>
    obtain ⟨result, w', hrun, hrewrites, -⟩ := Generation.run_source hplan ih g path
    rw [hrun]
    exact hrewrites.numbered

theorem proper (hw : History h w) : ∀ j ∈ h, j.plan.Proper := by
  induction hw with
  | start => nofun
  | edit _ _ ih => exact ih
  | source hw hplan g path ih =>
    simp only [List.forall_mem_append, Option.mem_toList]
    exact ⟨ih, fun j hj => Generation.plan_of_job? hj ▸ hplan⟩

/-- Every entry was recorded by a job with its key. -/
theorem entry_of_held (hw : History h w) {key x : Text} {q : Place} (hq : EntryPlace key q)
    (hheld : w.store.held q = some (.file x)) :
    ∃ j ∈ h, j.key = key ∧ ∃ doc, j.doc? = some doc ∧ x = (j.entry doc).pack := by
  induction hw generalizing q with
  | start _ hnone => exact absurd hheld (hnone key q x hq)
  | edit _ hedit ih =>
    obtain ⟨q', hq', hheld'⟩ := hedit.entry key q x hq hheld
    exact ih hq' hheld'
  | @source h w hw plan hplan g path ih =>
    obtain ⟨result, w', hrun, hrewrites, -⟩ := Generation.run_source hplan hw.numbered g path
    rw [hrun] at hheld
    rcases hrewrites.file q x hheld with hbefore | ⟨j, hj, doc, hdoc, hwrites⟩
    · obtain ⟨j, hj, hkey⟩ := ih hq hbefore
      exact ⟨j, List.mem_append_left _ hj, hkey⟩
    · have hmem : j ∈ h ++ (g.job? plan path w).toList :=
        List.mem_append_right _ (Option.mem_toList.mpr hj)
      rcases hwrites with ⟨d, hd, hplace, -⟩ | ⟨c, -, hplace, hx⟩
      · have hproper : j.plan.Proper := Generation.plan_of_job? hj ▸ hplan
        exact absurd hq (hproper.not_entryPlace (Job.readable_of_doc? hdoc) hd hplace)
      · exact ⟨j, hmem, (c.place_pathFor hplace).key_eq hq, doc, hdoc, hx⟩

end History

/-! ## Runs -/

/-- A computation that only looks: it leaves the world as it is. -/
def OnlyLooks {α : Type} (x : StateM World α) : Prop := ∀ w : World, (x.run w).2 = w

namespace OnlyLooks

theorem compositional : Compositional fun α => OnlyLooks (α := α) where
  pure _ _ := rfl
  bind hx hg w := (hg _ _).trans (hx w)

theorem filesWithin (fuel : Nat) (dir : Text) : OnlyLooks (AdtCompiler.filesWithin fuel dir) :=
  compositional.filesWithin (fun _ _ => rfl) fuel dir

theorem collectSources (path extension : Text) :
    OnlyLooks (AdtCompiler.collectSources path extension) :=
  compositional.collectSources (fun _ _ => rfl) (fun _ _ => rfl) path extension

theorem absolutePath (path : Text) : OnlyLooks (AdtCompiler.absolutePath path) :=
  compositional.absolutePath (fun _ => rfl) path

theorem keepsStore {α : Type} {x : StateM World α} (h : OnlyLooks x) : KeepsStore x :=
  fun w => congrArg World.store (h w)

end OnlyLooks

/-- A run that opens its cache, and drops it if that is asked, adds no entry. -/
theorem AddsNoEntry.openCache (o : Options) : AddsNoEntry o.openCache :=
  compositional.openCache (fun entry => (KeepsStore.log entry).addsNoEntry) open? dropAll o

/-- A computation that makes history: it leads from histories to longer ones, by jobs of a kind. -/
def MakesHistory {α : Type} (kind : Job → Prop) (x : StateM World α) : Prop :=
  ∀ h w, History h w → ∃ jobs, History (h ++ jobs) (x.run w).2 ∧ ∀ j ∈ jobs, kind j

theorem AddsNoEntry.makesHistory {α : Type} {kind : Job → Prop} {x : StateM World α}
    (hx : AddsNoEntry x) : MakesHistory kind x := by
  intro h w hw
  exact ⟨[], (List.append_nil h).symm ▸ .edit hw (hx w hw.numbered), nofun⟩

theorem KeepsStore.makesHistory {α : Type} {kind : Job → Prop} {x : StateM World α}
    (hx : KeepsStore x) : MakesHistory kind x := hx.addsNoEntry.makesHistory

namespace MakesHistory

variable {kind : Job → Prop}

theorem compositional : Compositional fun α => MakesHistory (α := α) kind where
  pure a := (KeepsStore.compositional.pure a).makesHistory
  bind {_ _ x _} hx hg h w hw := by
    obtain ⟨jobs, hjobs, hkind⟩ := hx h w hw
    obtain ⟨more, hmore, hkind'⟩ := hg (x.run w).1 _ _ hjobs
    refine ⟨jobs ++ more, List.append_assoc h jobs more ▸ hmore, ?_⟩
    exact List.forall_mem_append.mpr ⟨hkind, hkind'⟩

variable {plan : GenerationPlan}

theorem source (hplan : plan.Proper) (hkind : ∀ j : Job, j.plan = plan → kind j) (g : Generation)
    (path : Text) : MakesHistory kind (g.source plan path) := by
  intro h w hw
  refine ⟨_, .source hw hplan g path, fun j hj => hkind j ?_⟩
  exact Generation.plan_of_job? (Option.mem_toList.mp hj)

theorem options_of_start {o : Options} {session : Session} (h : Session.start o = .ok session) :
    session.options = o := by
  unfold Session.start at h
  split at h
  · cases h
    rfl
  · cases h

/-- Whatever a run is asked for, its work is a history of jobs with its options and its
destination. -/
theorem generate (o : Options) (source destination : Text) :
    MakesHistory (fun j => j.plan.session.options = o ∧ j.plan.units.dir = destination)
      (o.generate source destination) := by
  apply compositional.generate
  case hclock => exact KeepsStore.makesHistory fun _ => rfl
  case hdir => exact KeepsStore.makesHistory fun _ => rfl
  case hcollect =>
    exact fun path extension => (OnlyLooks.collectSources path extension).keepsStore.makesHistory
  case hopen => exact fun o => (AddsNoEntry.openCache o).makesHistory
  case hsources =>
    intro session hstart cache absolute g paths
    have hoptions := options_of_start hstart
    apply compositional.sources
    apply MakesHistory.source ⟨hoptions ▸ hstart, rfl⟩
    intro j hj
    rw [hj]
    exact ⟨hoptions, rfl⟩

end MakesHistory

end AdtCompiler
