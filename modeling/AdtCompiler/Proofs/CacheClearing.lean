import AdtCompiler.Proofs.CacheHistory
import AdtCompiler.Proofs.Resolution

/-!
# What clearing a cache leaves

A cache is cleared by giving its directory another name and removing what has that name then. The
files that differ afterwards were or are below one of the two names, whatever goes wrong between
the two steps, and however the names lead to their places.

## Contents

- `Store.AgreesOutside`, `Store.SameOutside`: stores with the same files, or with the same nodes,
  but for those at or below some places
- `Options.clearedPlaces`: the two places that a run may clear
- `Options.agreesOutside_openCache`: a run that opens its cache leaves all other files alone
-/

namespace AdtCompiler

open Store (Rewrites)

namespace Store

variable {s s' s'' : Store} {places : List Place} {p q r : Place}

/-- Two stores have the same files, but for those at or below some places. -/
structure AgreesOutside (places : List Place) (s s' : Store) : Prop where
  workingDir : s'.workingDir = s.workingDir
  file : ∀ q, (∀ p ∈ places, ¬ p <+: q) → ∀ t,
    s'.held q = some (.file t) ↔ s.held q = some (.file t)

namespace AgreesOutside

theorem refl (places : List Place) (s : Store) : AgreesOutside places s s :=
  ⟨rfl, fun _ _ _ => .rfl⟩

theorem trans (h : AgreesOutside places s s') (h' : AgreesOutside places s' s'') :
    AgreesOutside places s s'' where
  workingDir := h'.workingDir.trans h.workingDir
  file q hq t := (h'.file q hq t).trans (h.file q hq t)

theorem of_rewrites (h : Rewrites (fun _ _ => False) s s') : AgreesOutside places s s' where
  workingDir := h.workingDir
  file q _ t := by
    constructor
    · intro hheld
      exact (h.file q t hheld).resolve_right not_false
    · intro hheld
      exact h.held_of_not_new hheld fun _ => not_false

end AgreesOutside

/-- Two stores have the same contents and the same nodes, but for those at or below some places. -/
structure SameOutside (places : List Place) (s s' : Store) : Prop where
  workingDir : s'.workingDir = s.workingDir
  contents : s'.contents = s.contents
  node : ∀ q, (∀ p ∈ places, ¬ p <+: q) → s'.node? q = s.node? q

namespace SameOutside

theorem refl (places : List Place) (s : Store) : SameOutside places s s :=
  ⟨rfl, rfl, fun _ _ => rfl⟩

theorem trans (h : SameOutside places s s') (h' : SameOutside places s' s'') :
    SameOutside places s s'' where
  workingDir := h'.workingDir.trans h.workingDir
  contents := h'.contents.trans h.contents
  node q hq := (h'.node q hq).trans (h.node q hq)

theorem mono (h : SameOutside places s s') {places' : List Place}
    (hplaces : ∀ p ∈ places, p ∈ places') : SameOutside places' s s' where
  workingDir := h.workingDir
  contents := h.contents
  node q hq := h.node q fun p hp => hq p (hplaces p hp)

theorem held (h : SameOutside places s s') (hq : ∀ p ∈ places, ¬ p <+: q) :
    s'.held q = s.held q := by
  simp only [Store.held, h.node q hq, content, h.contents]

theorem agreesOutside (h : SameOutside places s s') : AgreesOutside places s s' where
  workingDir := h.workingDir
  file q hq t := by rw [h.held hq]

end SameOutside

/-- Looking up behind a change of keys, if it moves no other key to the one that is looked up. -/
theorem lookup_map_key {α β : Type} [BEq α] [LawfulBEq α] {f : α → α} {a : α}
    (hf : ∀ b, a = f b ↔ a = b) (l : List (α × β)) :
    (l.map fun x => (f x.1, x.2)).lookup a = l.lookup a := by
  induction l with
  | nil => rfl
  | cons x l ih =>
    obtain ⟨b, v⟩ := x
    have hkey : (a == f b) = (a == b) := by
      rw [Bool.eq_iff_iff, beq_iff_eq, beq_iff_eq]
      exact hf b
    rw [List.map_cons, List.lookup_cons, List.lookup_cons, hkey, ih]

/-- What is neither in a tree that moves nor where it moves to stays. -/
theorem node?_moveTree (hp : ¬ p <+: r) (hq : ¬ q <+: r) :
    (s.moveTree p q).node? r = s.node? r := by
  by_cases hr : r = []
  · simp [node?, hr]
  · have hkey : ∀ x, r = (if p.isPrefixOf x then q ++ x.drop p.length else x) ↔ r = x := by
      intro x
      split
      case isTrue hbelow =>
        rw [List.isPrefixOf_iff_prefix] at hbelow
        constructor
        · intro h
          exact absurd (h ▸ List.prefix_append q _) hq
        · intro h
          exact absurd (h ▸ hbelow) hp
      case isFalse => exact .rfl
    have hne : (r == q) = false := by
      rw [beq_eq_false_iff_ne]
      rintro rfl
      exact hq (List.prefix_refl r)
    rw [node?_of_ne_nil hr, node?_of_ne_nil hr, nodes_moveTree, lookup_map_key hkey,
      lookup_filter_ne, hne]
    rfl

variable {old new path : Text}

namespace SameOutside

/-- Renaming touches what is at or below the two names. -/
theorem of_rename (h : s.rename old new = .ok s') :
    SameOutside [s.target old, s.target new] s s' := by
  obtain ⟨p, q, node, hfind, hq, hcases⟩ := rename_cases h
  obtain ⟨hp, hnode⟩ := find_eq_ok.mp hfind
  rw [← eq_target_of_place hp, ← eq_target_of_place hq]
  rcases hcases with rfl | ⟨hdirectory, id, rfl, rfl⟩ | ⟨-, -, rfl⟩
  · exact .refl _ _
  · have hpnil : p ≠ [] := fun hnil => by simp [node?, hnil] at hnode
    have hqnil : q ≠ [] := fun hnil => hdirectory (by simp [node?, hnil])
    refine ⟨rfl, rfl, fun r hr => ?_⟩
    simp only [List.forall_mem_cons] at hr
    have hrp : r ≠ p := fun heq => hr.1 (heq ▸ List.prefix_refl p)
    have hrq : r ≠ q := fun heq => hr.2.1 (heq ▸ List.prefix_refl q)
    rw [node?_putNode hqnil, if_neg hrq, node?_dropNode hpnil, if_neg hrp]
  · refine ⟨rfl, rfl, fun r hr => ?_⟩
    simp only [List.forall_mem_cons] at hr
    exact node?_moveTree hr.1 hr.2.1

/-- Removing a tree touches what is in it. -/
theorem of_removeTree (h : s.removeTree path = .ok s') : SameOutside [s.target path] s s' := by
  rcases removeTree_cases h with rfl | ⟨p, hplace, hcontents, -, hdir, hnode⟩
  · exact .refl _ _
  · rw [← eq_target_of_place hplace]
    refine ⟨hdir, hcontents, fun r hr => ?_⟩
    rw [hnode, if_neg fun hbelow => hr p List.mem_cons_self hbelow.2]

end SameOutside

end Store

open Store (AgreesOutside SameOutside)

/-- The name that the directory of a cache has before it is removed. -/
def DiskCache.oldDir (dir : Text) (w : World) : Text :=
  dir ++ ".old-" ++ ((Host.timeStamp : StateM World Text).run w).1

/-- A cache is dropped in two steps. The first one fails and changes nothing, or the second one
follows, and if it fails, this is reported. -/
theorem DiskCache.run_dropAll (c : DiskCache) (w : World) :
    ∃ failure w', (c.dropAll : StateM World _).run w = (failure, w') ∧
      (w' = w ∨ ∃ s₁, w.store.rename c.dir (DiskCache.oldDir c.dir w) = .ok s₁ ∧
        (failure ≠ none ∧ w'.store = s₁ ∨
          s₁.removeTree (DiskCache.oldDir c.dir w) = .ok w'.store)) := by
  have htime : (Host.timeStamp : StateM World _).run w = (("00000000000000" : Text), w) := rfl
  rcases hrename : w.store.rename c.dir (DiskCache.oldDir c.dir w) with e | s₁
  · have hrun : (Host.rename c.dir (DiskCache.oldDir c.dir w) : StateM World _).run w = _ :=
      World.run_change_error hrename
    -- whether the failure is reported depends on its cause, but nothing else does
    obtain ⟨failure, hend⟩ : ∃ failure, (c.dropAll : StateM World _).run w = (failure, w) := by
      refine Exists.imp (fun _ hend => (run_bind htime _).trans ((run_bind hrun _).trans hend)) ?_
      dsimp only
      split <;> exact ⟨_, rfl⟩
    exact ⟨failure, w, hend, .inl rfl⟩
  · have hrun : (Host.rename c.dir (DiskCache.oldDir c.dir w) : StateM World _).run w = _ :=
      World.run_change_ok hrename
    rcases hremove : s₁.removeTree (DiskCache.oldDir c.dir w) with e | s₂
    · have hrun' : (Host.removeTree (DiskCache.oldDir c.dir w) : StateM World _).run
          { w with store := s₁ } = _ := World.run_change_error hremove
      exact ⟨_, _, (run_bind htime _).trans ((run_bind hrun _).trans (run_bind hrun' _)),
        .inr ⟨s₁, rfl, .inl ⟨nofun, rfl⟩⟩⟩
    · have hrun' : (Host.removeTree (DiskCache.oldDir c.dir w) : StateM World _).run
          { w with store := s₁ } = _ := World.run_change_ok hremove
      exact ⟨_, _, (run_bind htime _).trans ((run_bind hrun _).trans (run_bind hrun' _)),
        .inr ⟨s₁, rfl, .inr hremove⟩⟩

/-- Dropping a cache leaves alone what is at or below neither name of its directory. -/
theorem DiskCache.sameOutside_dropAll (c : DiskCache) (w : World) :
    SameOutside [w.store.target c.dir, w.store.target (DiskCache.oldDir c.dir w)] w.store
      ((c.dropAll : StateM World _).run w).2.store := by
  obtain ⟨failure, w', hrun, rfl | ⟨s₁, hrename, hcases⟩⟩ := c.run_dropAll w
  · rw [hrun]
    exact .refl _ _
  · rw [hrun]
    have hrenamed := SameOutside.of_rename hrename
    rcases hcases with ⟨-, hstore⟩ | hremove
    · rw [hstore]
      exact hrenamed
    · have hremoved := SameOutside.of_removeTree hremove
      rw [Store.target_congr hrenamed.workingDir] at hremoved
      exact hrenamed.trans (hremoved.mono (by simp))

namespace Options

/-- The directory of the cache of a run, if it is given or the environment tells one. -/
def cacheDirIn (o : Options) (w : World) : Option Text :=
  if o.cacheDir.isEmpty then ((DiskCache.defaultDir : StateM World _).run w).1.toOption
  else some o.cacheDir

/-- The places that a run may clear before it starts: those of both names of the directory of its
cache. -/
def clearedPlaces (o : Options) (w : World) : List Place :=
  if o.clearCache then
    (o.cacheDirIn w).toList.flatMap fun dir =>
      [w.store.target dir, w.store.target (DiskCache.oldDir dir w)]
  else []

end Options

namespace DiskCache

theorem onlyLooks_defaultDir : OnlyLooks DiskCache.defaultDir :=
  OnlyLooks.compositional.defaultDir fun _ _ => rfl

/-- Opening a cache in a directory changes no file. -/
theorem run_openIn {w : World} (hs : w.store.Numbered) (dir : Text) :
    ∃ opened w', (openIn dir : StateM World _).run w = (opened, w') ∧
      Rewrites (fun _ _ => False) w.store w'.store ∧ ∀ c, opened = .ok c → c.dir = dir := by
  have hdirs := KeepsFiles.makeDirs dir w hs
  obtain ⟨⟨made, w'⟩, hmake⟩ : ∃ r, (makeDirs dir : StateM World _).run w = r := ⟨_, rfl⟩
  rw [hmake] at hdirs
  cases made with
  | error e => exact ⟨_, w', run_bind hmake _, hdirs, nofun⟩
  | ok _ =>
    refine ⟨_, w', run_bind hmake _, hdirs, fun c hc => ?_⟩
    cases hc
    rfl

/-- Opening the cache of a run changes no file. -/
theorem run_open? {w : World} (hs : w.store.Numbered) (o : Options) :
    ∃ opened w', (open? o.cacheDir : StateM World _).run w = (opened, w') ∧
      Rewrites (fun _ _ => False) w.store w'.store ∧
      ∀ c, opened = .ok c → o.cacheDirIn w = some c.dir := by
  unfold open? Options.cacheDirIn
  split
  case isTrue =>
    obtain ⟨⟨found, w₁⟩, hfind⟩ : ∃ r, (defaultDir : StateM World _).run w = r := ⟨_, rfl⟩
    have hlook := onlyLooks_defaultDir w
    rw [hfind] at hlook ⊢
    cases hlook
    cases found with
    | error e => exact ⟨_, w₁, run_bind hfind _, .refl hs, nofun⟩
    | ok dir =>
      obtain ⟨opened, w', hopen, hdirs, hdir⟩ := run_openIn hs dir
      refine ⟨opened, w', (run_bind hfind _).trans hopen, hdirs, fun c hc => ?_⟩
      rw [hdir c hc]
      rfl
  case isFalse =>
    obtain ⟨opened, w', hopen, hdirs, hdir⟩ := run_openIn hs o.cacheDir
    exact ⟨opened, w', hopen, hdirs, fun c hc => congrArg some (hdir c hc).symm⟩

end DiskCache

/-- A run that opens its cache, and drops it if that is asked, leaves alone the files that are not
at or below a place that it clears. -/
theorem Options.agreesOutside_openCache (o : Options) {w : World} (hs : w.store.Numbered) :
    AgreesOutside (o.clearedPlaces w) w.store ((o.openCache : StateM World _).run w).2.store := by
  unfold Options.openCache
  split
  · exact .refl _ _
  · obtain ⟨opened, w₁, hopen, hdirs, hdir⟩ := DiskCache.run_open? hs o
    rw [run_bind hopen]
    cases opened with
    | error e => exact .of_rewrites hdirs
    | ok c =>
      dsimp only
      split
      case isFalse => exact .of_rewrites hdirs
      case isTrue hclear =>
        have hplaces : o.clearedPlaces w =
            [w.store.target c.dir, w.store.target (DiskCache.oldDir c.dir w)] := by
          simp [Options.clearedPlaces, hclear, hdir c rfl]
        have hdrop := (c.sameOutside_dropAll w₁).agreesOutside
        rw [Store.target_congr hdirs.workingDir, Store.target_congr hdirs.workingDir] at hdrop
        have hboth := (AgreesOutside.of_rewrites hdirs).trans hdrop
        obtain ⟨⟨failure, w₂⟩, hrun⟩ : ∃ r, (c.dropAll : StateM World _).run w₁ = r := ⟨_, rfl⟩
        rw [hrun] at hboth
        rw [hplaces, run_bind hrun]
        cases failure with
        | some e => exact hboth
        | none =>
          obtain ⟨w₃, hlog, hstore⟩ := w₂.run_log ⟨.info, "cleared cache", [("dir", .text c.dir)]⟩
          rw [← hstore] at hboth
          dsimp only
          rw [run_bind hlog]
          exact hboth

end AdtCompiler
