import AdtCompiler.Proofs.CacheClearing
import AdtCompiler.Proofs.Collecting

/-!
# Opening an empty cache

A run opens its cache before it works on the first source, and clears it first if that is asked. A
cache without files is still without files then, and sources that are apart from the directory of
the cache are as they were. To clear a cache, its directory is renamed to a name beside it. That
this does not touch the sources needs an argument: a directory is renamed only to a name that
nothing has, so the sources are neither there nor below, and what is above that name is above the
cache or in it.

## Contents

- `Store.Apart`: two places of which neither is at or below the other
- `Store.apart_oldDir`: the second name of the directory of a cache is apart from the sources
- `Options.run_openCache`: what a run finds when its cache is open
-/

namespace AdtCompiler

open Store (Rewrites AgreeBelow SameOutside)

/-! ## Names beside a directory -/

namespace Path

variable {path ending : Text}

theorem untilLastSlash_append (path : Text) (h : slash ∉ ending) :
    untilLastSlash (path ++ ending) = untilLastSlash path := by
  have hall : ∀ b ∈ ending.reverse, decide (b ≠ slash) = true := by
    intro b hb
    rw [List.mem_reverse] at hb
    exact decide_eq_true fun heq => h (heq ▸ hb)
  rw [untilLastSlash, List.reverse_append, List.dropWhile_append_of_pos hall, untilLastSlash]

theorem lastName_append (path : Text) (h : slash ∉ ending) :
    lastName (path ++ ending) = lastName path ++ ending := by
  have hwhole := untilLastSlash_append_lastName (path ++ ending)
  rw [untilLastSlash_append path h] at hwhole
  have hparts : untilLastSlash path ++ (lastName path ++ ending) = path ++ ending := by
    rw [← List.append_assoc, untilLastSlash_append_lastName]
  exact List.append_cancel_left (hwhole.trans hparts.symm)

/-- A name leads up or down, or nowhere. -/
theorem descend_prefix_or (here : Place) (name : Text) :
    descend here name <+: here ∨ here <+: descend here name := by
  unfold descend
  split
  case isTrue => exact .inl (List.prefix_refl here)
  case isFalse =>
    split
    case isTrue => exact .inl (List.dropLast_prefix here)
    case isFalse => exact .inr (List.prefix_append here [name])

end Path

namespace Store

variable {s s' : Store} {p q r top above : Place} {dir old new : Text} {w : World}

/-! ## Places apart -/

/-- Neither of two places is at or below the other. -/
def Apart (p q : Place) : Prop := ¬ p <+: q ∧ ¬ q <+: p

instance (p q : Place) : Decidable (Apart p q) := inferInstanceAs (Decidable (_ ∧ _))

theorem Apart.symm (h : Apart p q) : Apart q p := ⟨h.2, h.1⟩

/-- What is at or below a place is not at or below a place apart from it. -/
theorem Apart.not_prefix (h : Apart p q) (hr : p <+: r) : ¬ q <+: r := by
  intro hq
  rcases List.prefix_or_prefix_of_prefix hr hq with hle | hle
  · exact h.1 hle
  · exact h.2 hle

/-- Above everything there are directories. -/
theorem Closed.above_ne_none (h : s.Closed) (hq : s.node? q ≠ none) (habove : above <+: q) :
    s.node? above ≠ none := by
  obtain ⟨node, hnode⟩ := Option.ne_none_iff_exists'.mp hq
  by_cases heq : above = q
  · rwa [heq]
  · rw [h q node hnode above habove heq]
    exact Option.some_ne_none _

/-- Nothing that was there is missing when files were rewritten. -/
theorem Rewrites.node_ne_none {written : Place → Text → Prop} (h : Rewrites written s s')
    (hq : s.node? q ≠ none) : s'.node? q ≠ none := by
  rcases hnode : s.node? q with _ | _ | id
  · exact absurd hnode hq
  · rw [h.directory q hnode]
    exact Option.some_ne_none _
  · obtain ⟨t, ht, -⟩ := h.stays q (s.content id) (held_eq_file.mpr ⟨id, hnode, rfl⟩)
    obtain ⟨id', hid', -⟩ := held_eq_file.mp ht
    rw [hid']
    exact Option.some_ne_none _

/-- The second name of the directory of a cache is a name beside the first one. -/
theorem target_oldDir (s : Store) (dir : Text) (w : World) :
    ∃ name, s.target (DiskCache.oldDir dir w) = s.target (Path.parent dir) ++ [name] := by
  have htime : ((Host.timeStamp : StateM World Text).run w).1 = "00000000000000" := rfl
  have hslash : Path.slash ∉ (".old-00000000000000" : Text) := by decide
  have hold : DiskCache.oldDir dir w = dir ++ ".old-00000000000000" := by
    rw [DiskCache.oldDir, htime, List.append_assoc]
    rfl
  have hplain : Path.Plain (Path.lastName dir ++ ".old-00000000000000") := by
    apply Path.plain_of_length
    · simp only [List.mem_append, not_or]
      exact ⟨Path.slash_not_mem_lastName dir, hslash⟩
    · have hlength : (".old-00000000000000" : Text).length = 19 := by decide
      rw [List.length_append, hlength]
      omega
  refine ⟨Path.lastName dir ++ ".old-00000000000000", ?_⟩
  rw [hold, s.target_eq_descend, Path.parent, Path.untilLastSlash_append dir hslash,
    Path.lastName_append dir hslash, Path.descend_plain hplain, Path.parent]

/-- If nothing has the second name of the directory of a cache, what is apart from the first name is
apart from the second one. -/
theorem apart_oldDir (htop : ∀ above, above <+: top → s.node? above ≠ none)
    (hapart : Apart top (s.target dir))
    (hnone : s.node? (s.target (DiskCache.oldDir dir w)) = none) :
    Apart top (s.target (DiskCache.oldDir dir w)) := by
  constructor
  · intro hle
    obtain ⟨name, htarget⟩ := s.target_oldDir dir w
    rw [htarget, List.prefix_concat_iff, ← htarget] at hle
    rcases hle with heq | hle
    · exact htop top (List.prefix_refl top) (heq ▸ hnone)
    · -- what is above both names is on one line with the first of them
      rw [s.target_eq_descend dir] at hapart
      rcases Path.descend_prefix_or (s.target (Path.parent dir)) (Path.lastName dir) with
        hup | hdown
      · exact hapart.symm.not_prefix hup hle
      · exact hapart.1 (hle.trans hdown)
  · intro hle
    exact htop _ hle hnone

/-- A directory is renamed only to a name that nothing has, with all that is in it. -/
theorem rename_directory (hfind : s.find old = .ok (p, .directory))
    (h : s.rename old new = .ok s') :
    ∃ q, s.place new = .ok q ∧ s.node? q = none ∧ ¬ p.isPrefixOf q ∧ s' = s.moveTree p q := by
  have hnode := (find_eq_ok.mp hfind).2
  rcases hplace : s.place new with e | q
  · simp [rename, hfind, hplace, bind, Except.bind] at h
  · refine ⟨q, rfl, ?_⟩
    rcases htarget : s.node? q with _ | _ | id <;>
      simp only [rename, hfind, hplace, htarget, bind, Except.bind] at h <;> grind

/-- A file that is there when a tree was moved was there before, or it was in the tree. -/
theorem held_of_moveTree {t : Text} (hp : p ≠ []) (h : (s.moveTree p q).held r = some (.file t)) :
    s.held r = some (.file t) ∨ ∃ rest, s.held (p ++ rest) = some (.file t) := by
  obtain ⟨id, hnode, hcontent⟩ := held_eq_file.mp h
  have hr : r ≠ [] := by
    rintro rfl
    simp [node?] at hnode
  obtain ⟨r', hr', rfl | ⟨rest, rfl, -⟩⟩ := exists_node?_of_moveTree hp hr hnode
  · exact .inl (held_eq_file.mpr ⟨id, hr', hcontent⟩)
  · exact .inr ⟨rest, held_eq_file.mpr ⟨id, hr', hcontent⟩⟩

/-- A file that is there when a tree was removed was there before. -/
theorem held_of_removeTree {path t : Text} (h : s.removeTree path = .ok s')
    (hr : s'.held r = some (.file t)) : s.held r = some (.file t) := by
  rcases removeTree_cases h with rfl | ⟨-, -, hcontents, -⟩
  · exact hr
  · obtain ⟨id, hnode, hcontent⟩ := held_eq_file.mp hr
    refine held_eq_file.mpr ⟨id, node?_of_removeTree h hnode, ?_⟩
    rwa [content, ← hcontents]

end Store

open Store (Apart)

/-! ## Clearing -/

/-- No file is at or below a place. -/
def Store.NoFileBelow (s : Store) (p : Place) : Prop :=
  ∀ q t, p <+: q → s.held q ≠ some (.file t)

namespace DiskCache

variable {c : DiskCache} {w w' : World} {top : Place}

/-- A cache that was dropped was not there, or its directory was renamed and removed. -/
theorem run_dropAll_none (h : (c.dropAll : StateM World _).run w = (none, w')) :
    w' = w ∨ ∃ s₁, w.store.rename c.dir (oldDir c.dir w) = .ok s₁ ∧
      s₁.removeTree (oldDir c.dir w) = .ok w'.store := by
  obtain ⟨failure, w₁, hrun, hcases⟩ := c.run_dropAll w
  cases h.symm.trans hrun
  rcases hcases with hsame | ⟨s₁, hrename, ⟨hfails, -⟩ | hremove⟩
  · exact .inl hsame
  · exact absurd rfl hfails
  · exact .inr ⟨s₁, hrename, hremove⟩

/-- Dropping a cache without files leaves it without files, and leaves alone what is apart from it
and there. -/
theorem run_dropAll_empty (h : (c.dropAll : StateM World _).run w = (none, w'))
    (hempty : w.store.NoFileBelow (w.store.target c.dir))
    (htop : ∀ above, above <+: top → w.store.node? above ≠ none)
    (hapart : Apart top (w.store.target c.dir)) :
    AgreeBelow top w.store w'.store ∧ w'.store.NoFileBelow (w.store.target c.dir) := by
  rcases run_dropAll_none h with rfl | ⟨s₁, hrename, hremove⟩
  · exact ⟨.refl top _, hempty⟩
  · obtain ⟨p, -, node, hfind, -, -⟩ := Store.rename_cases hrename
    obtain ⟨hplace, hnode⟩ := Store.find_eq_ok.mp hfind
    have hp := Store.eq_target_of_place hplace
    cases node with
    | file id =>
      -- the cache would be a file
      exact absurd (Store.held_eq_file.mpr ⟨id, hnode, rfl⟩) (hempty p _ (hp ▸ List.prefix_refl p))
    | directory =>
      obtain ⟨q, hq, hnone, hbelow, rfl⟩ := Store.rename_directory hfind hrename
      have hq' := Store.eq_target_of_place hq
      have hold := Store.apart_oldDir htop hapart (hq' ▸ hnone)
      have hrenamed := SameOutside.of_rename hrename
      have hremoved := SameOutside.of_removeTree hremove
      rw [Store.target_congr hrenamed.workingDir] at hremoved
      have hsame := hrenamed.trans (hremoved.mono (by simp))
      have houtside : ∀ r, top <+: r → ∀ place ∈
          [w.store.target c.dir, w.store.target (oldDir c.dir w)], ¬ place <+: r := by
        intro r hr
        simp only [List.forall_mem_cons]
        exact ⟨hapart.not_prefix hr, hold.not_prefix hr, nofun⟩
      refine ⟨⟨hsame.workingDir, fun r hr hdir => ?_, fun r hr t => ?_⟩, fun r t hr hheld => ?_⟩
      · rw [hsame.node r (houtside r hr)]
        exact hdir
      · rw [hsame.held (houtside r hr)]
      · -- a file that is in the cache now was in it before
        have hnil : p ≠ [] := fun hnil => hbelow (by simp [hnil])
        rcases Store.held_of_moveTree hnil (Store.held_of_removeTree hremove hheld) with
          hbefore | ⟨rest, hbefore⟩
        · exact hempty r t hr hbefore
        · exact hempty (p ++ rest) t (hp ▸ List.prefix_append p rest) hbefore

end DiskCache

/-! ## Opening -/

namespace Options

variable {o : Options} {w w₁ : World} {cache : Option DiskCache} {dir : Text} {top : Place}

/-- The directory of a cache depends on the environment, not on the files. -/
theorem cacheDirIn_congr {w' : World} (h : w'.environment = w.environment) (o : Options) :
    o.cacheDirIn w' = o.cacheDirIn w := by
  have hdefault : ((DiskCache.defaultDir : StateM World _).run w').1 =
      ((DiskCache.defaultDir : StateM World _).run w).1 := by
    have hlook : ∀ (w : World) (name : Text), (Host.environment name : StateM World _).run w =
        ((w.environment.lookup name).getD [], w) := fun _ _ => rfl
    rw [DiskCache.defaultDir, run_bind (hlook w' _), run_bind (hlook w _), h]
    split
    case isTrue => rfl
    case isFalse =>
      rw [run_bind (hlook w' _), run_bind (hlook w _), h]
      split <;> rfl
  rw [cacheDirIn, cacheDirIn, hdefault]

/-- A run that has a cache in the end found its directory and made at most directories there. -/
theorem run_open?_of_openCache (hcache : o.cache = true) (hdir : o.cacheDirIn w = some dir)
    (hs : w.store.Numbered) (h : (o.openCache : StateM World _).run w = (.ok cache, w₁)) :
    ∃ w₂, (DiskCache.open? o.cacheDir : StateM World _).run w = (.ok ⟨dir⟩, w₂) ∧
      Rewrites (fun _ _ => False) w.store w₂.store := by
  obtain ⟨opened, w₂, hopen, hdirs, hopened⟩ := DiskCache.run_open? hs o
  cases opened with
  | error e =>
    rw [openCache, if_neg (by simp [hcache]), run_bind hopen] at h
    cases h
  | ok c =>
    obtain rfl : dir = c.dir := Option.some.inj (hdir.symm.trans (hopened c rfl))
    exact ⟨w₂, hopen, hdirs⟩

/-- A run that does not clear its cache changes no file when it opens it. -/
theorem run_openCache_kept (hclear : o.clearCache = false) (hcache : o.cache = true)
    (hdir : o.cacheDirIn w = some dir) (hs : w.store.Numbered)
    (h : (o.openCache : StateM World _).run w = (.ok cache, w₁)) :
    cache = some ⟨dir⟩ ∧ Rewrites (fun _ _ => False) w.store w₁.store := by
  obtain ⟨w₂, hopen, hdirs⟩ := run_open?_of_openCache hcache hdir hs h
  rw [openCache, if_neg (by simp [hcache]), run_bind hopen] at h
  dsimp only at h
  rw [hcache, hclear] at h
  cases h
  exact ⟨rfl, hdirs⟩

/-- When a run has opened its cache, which has no files, it still has none, and everything is as it
was where the run takes its sources from. -/
theorem run_openCache (hcache : o.cache = true) (hdir : o.cacheDirIn w = some dir)
    (hs : w.store.Numbered) (hclosed : w.store.Closed) (htop : w.store.node? top ≠ none)
    (hapart : Apart top (w.store.target dir))
    (hempty : w.store.NoFileBelow (w.store.target dir))
    (h : (o.openCache : StateM World _).run w = (.ok cache, w₁)) :
    cache = some ⟨dir⟩ ∧ AgreeBelow top w.store w₁.store ∧
      w₁.store.NoFileBelow (w.store.target dir) := by
  obtain ⟨w₂, hopen, hdirs⟩ := run_open?_of_openCache hcache hdir hs h
  rw [openCache, if_neg (by simp [hcache]), run_bind hopen] at h
  -- opening makes directories at most
  have hagree : AgreeBelow top w.store w₂.store := .of_rewrites hdirs fun _ _ _ => not_false
  have htarget := Store.target_congr hdirs.workingDir dir
  have hnone : w₂.store.NoFileBelow (w₂.store.target dir) := by
    intro q t hq hheld
    rw [htarget] at hq
    exact hempty q t hq ((hdirs.file q t hheld).resolve_right not_false)
  dsimp only at h
  rw [hcache] at h
  split at h
  case isFalse =>
    cases h
    exact ⟨rfl, hagree, htarget ▸ hnone⟩
  case isTrue =>
    obtain ⟨⟨failure, w₃⟩, hdrop⟩ : ∃ r,
      (DiskCache.dropAll ⟨dir⟩ : StateM World _).run w₂ = r := ⟨_, rfl⟩
    rw [run_bind hdrop] at h
    cases failure with
    | some e => cases h
    | none =>
      -- everything above the sources is there, so the cache cannot be moved to such a place
      have habove : ∀ above, above <+: top → w₂.store.node? above ≠ none := fun above hle =>
        hdirs.node_ne_none (hclosed.above_ne_none htop hle)
      obtain ⟨hagree', hnone'⟩ :=
        DiskCache.run_dropAll_empty hdrop hnone habove (htarget.symm ▸ hapart)
      obtain ⟨w₄, hlog, hstore⟩ := w₃.run_log ⟨.info, "cleared cache", [("dir", .text dir)]⟩
      cases (run_bind hlog _).symm.trans h
      rw [hstore]
      exact ⟨rfl, hagree.trans hagree', htarget ▸ hnone'⟩

end Options

end AdtCompiler
