import AdtCompiler.Proofs.TargetCalls
import AdtCompiler.Proofs.UnitCreation

/-!
# Files and memory agree

Targets in memory keep a text and a flag. Targets in files keep a file that is open, remember
failures and rename the file in the end. Carried out with either factory, the same calls on any
number of targets, in any order, publish the same units with the same texts.

A call on one target leaves the files of the others alone: these have names that no unit has, and
what a call does to names that units may have matters to no target. So the files are followed one
target at a time.

## Contents

- `Store.Spares`: what a call on one target leaves of the files of the others
- `FileTarget.run_write_open`, `run_abort_sparing`, `run_close_sparing`: what a call on one target
  does
- `FileUnits.Agrees`, `FileUnits.Shows`, `FileUnits.Follows`: files that agree with the ledger
- `FileUnits.Follows.create`, `FileUnits.Follows.use`: every call keeps them in agreement
- `FileUnits.files_agree_with_memory`
-/

namespace AdtCompiler

open Store (OnlyNewDirs Pending Settled AgreeBut)

/-! ## The files of other targets -/

namespace Store

variable {s s' s'' : Store} {id : Nat} {p q : Place} {path : Text}

/-- What is left of a store where something was done with the file of a number: directories stay,
files of other numbers are as open as before and hold the same, no name is given to them, and those
without a final name keep their names. -/
structure Spares (id : Nat) (s s' : Store) : Prop where
  workingDir : s'.workingDir = s.workingDir
  next_le : s.next ≤ s'.next
  directory : ∀ q, s.node? q = some .directory → s'.node? q = some .directory
  opened : ∀ k, k ≠ id → s'.opened.lookup k = s.opened.lookup k
  content : ∀ k, k ≠ id → s'.content k = s.content k
  named : ∀ k q, k ≠ id → s'.node? q = some (.file k) → s.node? q = some (.file k)
  stays : ∀ k q, k ≠ id → s.node? q = some (.file k) → ¬ Settled q → s'.node? q = some (.file k)

namespace Spares

theorem refl (id : Nat) (s : Store) : Spares id s s :=
  ⟨rfl, Nat.le_refl _, fun _ hq => hq, fun _ _ => rfl, fun _ _ => rfl, fun _ _ _ hq => hq,
    fun _ _ _ hq _ => hq⟩

theorem trans (h : Spares id s s') (h' : Spares id s' s'') : Spares id s s'' where
  workingDir := h'.workingDir.trans h.workingDir
  next_le := Nat.le_trans h.next_le h'.next_le
  directory q hq := h'.directory q (h.directory q hq)
  opened k hk := (h'.opened k hk).trans (h.opened k hk)
  content k hk := (h'.content k hk).trans (h.content k hk)
  named k q hk hq := h.named k q hk (h'.named k q hk hq)
  stays k q hk hq hsettled := h'.stays k q hk (h.stays k q hk hq hsettled) hsettled

theorem numbered (h : Spares id s s') (hs : s.Numbered) (hid : id < s'.next) : s'.Numbered := by
  intro q k hq
  by_cases hk : k = id
  · exact hk ▸ hid
  · exact Nat.lt_of_lt_of_le (hs q k (h.named k q hk hq)) h.next_le

theorem place (h : Spares id s s') (hp : s.place path = .ok p) : s'.place path = .ok p :=
  place_mono hp h.workingDir h.directory

theorem of_onlyNewDirs {new : Place → Prop} (id : Nat) (h : OnlyNewDirs new s s') :
    Spares id s s' where
  workingDir := h.workingDir
  next_le := h.next.ge
  directory q hq := by
    rcases h.node q with hsame | ⟨hnone, -⟩
    · rw [hsame, hq]
    · rw [hnone] at hq
      cases hq
  opened k _ := by rw [h.opened]
  content k _ := by rw [Store.content, Store.content, h.contents]
  named k q _ hq := by
    rcases h.node q with hsame | ⟨-, hmade, -⟩
    · rw [← hsame, hq]
    · rw [hmade] at hq
      cases hq
  stays k q _ hq _ := by
    rcases h.node q with hsame | ⟨hnone, -⟩
    · rw [hsame, hq]
    · rw [hnone] at hq
      cases hq

theorem of_pending {h : Handle} {text : Text} (hpending : Pending s h p text s')
    (hopened : s'.opened = (h.id, h.id) :: s.opened) : Spares h.id s s' where
  workingDir := hpending.workingDir
  next_le := by
    have hle := hpending.next_le
    have heq := hpending.next_eq
    omega
  -- no directory was at the place of the new file
  directory q hq := by
    rw [hpending.others q (fun hqp => by simp [hqp, hpending.fresh] at hq), hq]
  opened k hk := by rw [hopened, List.lookup_cons, beq_eq_false_iff_ne.mpr hk]
  content k hk := hpending.contents k hk
  named k q hk hq := by
    rw [← hpending.others q, hq]
    rintro rfl
    rw [hpending.node] at hq
    cases hq
    exact hk rfl
  stays k q hk hq _ := by
    rw [hpending.others q (fun hqp => by simp [hqp, hpending.fresh] at hq), hq]

theorem putContent (s : Store) (id : Nat) (text : Text) : Spares id s (s.putContent id text) where
  workingDir := rfl
  next_le := Nat.le_refl _
  directory _ hq := hq
  opened _ _ := rfl
  content k hk := by rw [content_putContent, if_neg hk]
  named _ _ _ hq := hq
  stays _ _ _ hq _ := hq

theorem closed (s : Store) (id : Nat) :
    Spares id s { s with opened := s.opened.filter (·.1 != id) } where
  workingDir := rfl
  next_le := Nat.le_refl _
  directory _ hq := hq
  opened k hk := by rw [lookup_filter_ne, if_neg (by simpa using hk)]
  content _ _ := rfl
  named _ _ _ hq := hq
  stays _ _ _ hq _ := hq

/-- Taking its name away from a file. -/
theorem dropNode (hp : s.node? p = some (.file id)) : Spares id s (s.dropNode p) := by
  have hne : p ≠ [] := fun hnil => by simp [node?, hnil] at hp
  have hnode : ∀ q, q ≠ p → (s.dropNode p).node? q = s.node? q := fun q hq => by
    rw [node?_dropNode hne, if_neg hq]
  constructor
  case workingDir => rfl
  case next_le => exact Nat.le_refl _
  case directory => exact fun q hq => by rw [hnode q (fun hqp => by simp [hqp, hp] at hq), hq]
  case opened => exact fun _ _ => rfl
  case content => exact fun _ _ => rfl
  case named =>
    intro k q _ hq
    rw [node?_dropNode hne] at hq
    split at hq
    · cases hq
    · exact hq
  case stays =>
    -- a file of another number is elsewhere
    intro k q hk hq _
    rw [hnode q, hq]
    rintro rfl
    rw [hp] at hq
    cases hq
    exact hk rfl

/-- Giving a file a final name, which takes the name away from another file. -/
theorem putNode (hq : Settled q) (hdirectory : s.node? q ≠ some .directory) :
    Spares id s (s.putNode q (.file id)) := by
  have hne : q ≠ [] := fun hnil => hdirectory (by simp [node?, hnil])
  have hnode : ∀ r, r ≠ q → (s.putNode q (.file id)).node? r = s.node? r := fun r hr => by
    rw [node?_putNode hne, if_neg hr]
  constructor
  case workingDir => rfl
  case next_le => exact Nat.le_refl _
  case directory => exact fun r hr => by rw [hnode r (fun hrq => hdirectory (hrq ▸ hr)), hr]
  case opened => exact fun _ _ => rfl
  case content => exact fun _ _ => rfl
  case named =>
    intro k r hk hr
    rw [node?_putNode hne] at hr
    split at hr
    · cases hr
      exact absurd rfl hk
    · exact hr
  case stays =>
    -- the place is a final one, and those names are not promised to stay
    intro k r _ hr hsettled
    rw [hnode r, hr]
    rintro rfl
    exact hsettled hq

end Spares

theorem status_eq_directory :
    s.status path = .ok .directory ↔ ∃ p, s.place path = .ok p ∧ s.node? p = some .directory := by
  unfold status
  rcases hfind : s.find path with e | ⟨p, node⟩
  · simp only [blame, bind, Except.bind, reduceCtorEq, false_iff]
    rintro ⟨p, hp, hnode⟩
    cases hfind.symm.trans (find_eq_ok.mpr ⟨hp, hnode⟩)
  · obtain ⟨hp, hnode⟩ := find_eq_ok.mp hfind
    cases node <;> simp [blame, bind, Except.bind, hp, hnode]

theorem status_eq_regular :
    s.status path = .ok .regular ↔ ∃ text, s.load path = .ok text := by
  unfold status load
  rcases s.find path with e | ⟨p, _ | id⟩ <;> simp [blame, bind, Except.bind]

/-- A directory that is found is found afterwards. -/
theorem Spares.status_directory (h : Spares id s s') (hdir : s.status path = .ok .directory) :
    s'.status path = .ok .directory := by
  obtain ⟨p, hp, hnode⟩ := status_eq_directory.mp hdir
  exact status_eq_directory.mpr ⟨p, h.place hp, h.directory p hnode⟩

end Store

/-! ## One call -/

namespace FileTarget

open Store (Spares)

variable {t : FileTarget} {w : World} {s s' : Store} {p q : Place} {text : Text} {id : Nat}

theorem Open.spares (h : Open t p text s) (hp : ¬ Settled p) (hid : t.temp.id ≠ id)
    (hs : Spares id s s') : Open t p text s' where
  place := hs.place h.place
  node := hs.stays _ p hid h.node hp
  only q hq := h.only q (hs.named _ q hid hq)
  content := (hs.content _ hid).trans h.content
  apart := Store.target_congr hs.workingDir t.path ▸ h.apart
  closed_eq := h.closed_eq
  opened := (hs.opened _ hid).trans h.opened

theorem Released.spares (h : Released t s) (hid : t.temp.id ≠ id) (hs : Spares id s s') :
    Released t s' :=
  ⟨h.closed_eq, (hs.opened _ hid).trans h.opened⟩

/-- A write adds to the text in the file. -/
theorem run_write_open (h : Open t p text w.store) (more : Text) :
    ∃ store, (t.write more : StateM World _).run w = ((none, t), { w with store }) ∧
      Open t p (text ++ more) store ∧ Spares t.temp.id w.store store ∧
      AgreeBut p w.store store := by
  have happend : w.store.append t.temp more =
      .ok (w.store.putContent t.temp.id (text ++ more)) := by
    simp [Store.append, h.opened, h.content]
  have hrun : (Host.append t.temp more : StateM World _).run w = (.ok (), _) :=
    World.run_change_ok happend
  refine ⟨_, run_bind hrun _, ?_, .putContent _ _ _, h.agreeBut_putContent _⟩
  exact { h with
    place := Store.place_of_nodes h.place rfl rfl
    content := by rw [Store.content_putContent, if_pos rfl] }

/-- Closing the file of a target leaves the text in it. -/
theorem run_closeTemp_open (h : Open t p text w.store) :
    ∃ store, (Host.close t.temp : StateM World _).run w = (.ok (), { w with store }) ∧
      Holds t p text store ∧ store.opened.lookup t.temp.id = none ∧
      Spares t.temp.id w.store store ∧ AgreeBut p w.store store ∧
      ∀ q, store.node? q = w.store.node? q := by
  have hclose : w.store.close t.temp =
      .ok { w.store with opened := w.store.opened.filter (·.1 != t.temp.id) } := by
    simp [Store.close, h.opened]
  refine ⟨_, World.run_change_ok hclose, ?_, ?_, .closed _ _, ⟨rfl, fun _ _ => rfl⟩, fun _ => rfl⟩
  · exact { h.toHolds with place := Store.place_of_nodes h.place rfl rfl }
  · simp [Store.lookup_filter_ne]

/-- An aborted target leaves nothing behind. -/
theorem run_abort_sparing (h : Open t p text w.store) :
    ∃ store, (t.abort : StateM World _).run w =
        ((none, { t with closed := true }), { w with store }) ∧
      Released { t with closed := true } store ∧ Spares t.temp.id w.store store ∧
      AgreeBut p w.store store := by
  obtain ⟨middle, hclose, hholds, hopened, hspares, hagree, -⟩ := run_closeTemp_open h
  have hremove : (Host.remove t.temp.name : StateM World _).run { w with store := middle } =
      (.ok (), { w with store := middle.dropNode p }) :=
    World.run_change_ok (Store.remove_file hholds.place hholds.node)
  refine ⟨middle.dropNode p, ?_, ⟨rfl, hopened⟩, hspares.trans (.dropNode hholds.node),
    hagree.trans hholds.agreeBut_dropNode⟩
  unfold abort
  simp only [h.closed_eq]
  exact (run_bind hclose _).trans (run_bind hremove _)

/-- A closed target has its text at its path and nowhere else. -/
theorem run_close_sparing (h : Open t p text w.store) (hfailure : t.failure = none)
    (hplace : w.store.place t.path = .ok q) (hq : Settled q)
    (hdirectory : w.store.node? q ≠ some .directory) :
    ∃ store, (t.close : StateM World _).run w =
        ((none, { t with closed := true }), { w with store }) ∧
      Released { t with closed := true } store ∧ Spares t.temp.id w.store store ∧
      ∀ r, store.held r =
        if r = q then some (.file text) else if r = p then none else w.store.held r := by
  obtain ⟨middle, hclose, hholds, hopened, hspares, hagree, hnodes⟩ := run_closeTemp_open h
  -- the final name is not the temporary one, so the rename is a move to another place
  have hqp : q ≠ p := fun hqp => h.apart (hqp ▸ (Store.eq_target_of_place hplace).symm)
  rw [← hnodes] at hdirectory
  have hrename : middle.rename t.temp.name t.path =
      .ok ((middle.dropNode p).putNode q (.file t.temp.id)) :=
    Store.rename_file (Store.find_eq_ok.mpr ⟨hholds.place, hholds.node⟩) (hspares.place hplace)
      hdirectory hqp.symm
  have hrun : (Host.rename t.temp.name t.path : StateM World _).run { w with store := middle } =
      (.ok (), { w with store := (middle.dropNode p).putNode q (.file t.temp.id) }) :=
    World.run_change_ok hrename
  -- the move takes away the temporary name and then gives the final one
  have hdropped : Spares t.temp.id w.store (middle.dropNode p) :=
    hspares.trans (.dropNode hholds.node)
  refine ⟨(middle.dropNode p).putNode q (.file t.temp.id), ?_, ⟨rfl, hopened⟩,
    hdropped.trans (.putNode hq ?_), fun r => ?_⟩
  · unfold close
    simp only [h.closed_eq, hfailure]
    exact (run_bind hclose _).trans (run_bind hrun _)
  · rwa [Store.node?_dropNode hholds.ne_nil, if_neg hqp]
  · obtain ⟨q', hplace', -, -, -, hheld⟩ := hholds.rename_eq_ok hrename
    obtain rfl : q = q' := Except.ok.inj ((hspares.place hplace).symm.trans hplace')
    rw [hheld]
    split
    · rfl
    · split
      · rfl
      · rename_i hrp
        exact hagree.held r hrp

/-- Nothing that is done with a released target changes anything. -/
theorem run_released (h : Released t w.store) (call : Call) :
    ∃ failure t', (t.perform call : StateM World _).run w = ((failure, t'), w) ∧
      t'.path = t.path ∧ t'.temp = t.temp ∧ Released t' w.store := by
  cases call with
  | write more =>
    have hrun : (Host.append t.temp more : StateM World _).run w =
        (.error ⟨.writing, [t.temp.name], .alreadyClosed⟩, w) :=
      World.run_change_error (by simp [Store.append, h.opened])
    exact ⟨_, _, run_bind hrun _, rfl, rfl, { h with }⟩
  | close =>
    refine ⟨none, t, ?_, rfl, rfl, h⟩
    simp only [perform, close, h.closed_eq]
    rfl
  | abort =>
    refine ⟨none, t, ?_, rfl, rfl, h⟩
    simp only [perform, abort, h.closed_eq]
    rfl

end FileTarget

/-! ## Where units are -/

namespace FileUnits

open Store (Spares)
open FileTarget (Call Open Released)

section Places

variable {f : FileUnits} {name : Text}

/-- A unit is below the directory for units, and its last name ends with the extension. -/
theorem exists_target_pathFor (hf : f.extension.isDotLetters = true) (h : IsUnitName name)
    (s : Store) : ∃ before last, s.target (f.pathFor name) =
      s.target f.dir ++ before ++ [last ++ f.extension] := by
  obtain ⟨before, last, -, -, hplain, hpath⟩ := exists_pieces hf h
  refine ⟨before, last, ?_⟩
  rw [hpath, s.target_ofElements f.dir hplain, List.append_assoc]

theorem settled_target (hf : f.extension.isDotLetters = true) (h : IsUnitName name) (s : Store) :
    Settled (s.target (f.pathFor name)) := by
  obtain ⟨before, last, htarget⟩ := exists_target_pathFor hf h s
  obtain ⟨front, b, hextension, hdigit⟩ := (Extension.of_isDotLetters hf).last
  refine ⟨s.target f.dir ++ before, last ++ front, b, ?_, hdigit⟩
  rw [htarget, hextension, List.append_assoc last]

/-- No unit is at a place without a final name. -/
theorem target_ne (hf : f.extension.isDotLetters = true) (h : IsUnitName name) (s : Store)
    {p : Place} (hp : ¬ Settled p) : s.target (f.pathFor name) ≠ p := by
  rintro rfl
  exact hp (settled_target hf h s)

/-- No unit is where the directories for units are. -/
theorem not_undotted_target (hf : f.extension.isDotLetters = true) (h : IsUnitName name)
    (s : Store) : ¬ Undotted (s.target f.dir) (s.target (f.pathFor name)) := by
  obtain ⟨before, last, htarget⟩ := exists_target_pathFor hf h s
  rintro ⟨way, hway, hundotted⟩
  rw [htarget, List.append_assoc, List.append_cancel_left_eq] at hway
  have hmem : last ++ f.extension ∈ way := by simp [← hway]
  exact hundotted _ hmem (List.mem_append_right _ (Text.dot_mem_of_isDotLetters hf))

/-- In a directory where nothing is, no unit is. -/
theorem held_eq_none_of_empty (hf : f.extension.isDotLetters = true) (h : IsUnitName name)
    {s : Store} (hempty : s.below (s.target f.dir) = []) :
    s.held (s.target (f.pathFor name)) = none := by
  obtain ⟨before, last, htarget⟩ := exists_target_pathFor hf h s
  have hne : s.target (f.pathFor name) ≠ [] := by simp [htarget]
  -- a node at the target of the unit would be one below the directory
  have hnode : s.node? (s.target (f.pathFor name)) = none := by
    rw [Store.node?_of_ne_nil hne, List.lookup_eq_none_iff]
    rintro ⟨q, node⟩ hq
    rw [bne_iff_ne]
    rintro rfl
    have hbelow : (s.target (f.pathFor name), node) ∈ s.below (s.target f.dir) := by
      refine List.mem_filter.mpr ⟨hq, ?_⟩
      simp [htarget, List.isPrefixOf_iff_prefix]
    rw [hempty] at hbelow
    cases hbelow
  simp [Store.held, hnode]

end Places

/-! ## New targets -/

namespace Created

variable {f : FileUnits} {name : Text} {t : FileTarget} {s s' : Store}

theorem spares (h : f.Created name t s s') : Spares t.temp.id s s' := by
  obtain ⟨middle, p, hdirs, hpending, hopened, -⟩ := h.temp
  exact (Spares.of_onlyNewDirs _ hdirs).trans (.of_pending hpending hopened)

theorem next_le (h : f.Created name t s s') : s.next ≤ t.temp.id := by
  obtain ⟨middle, p, hdirs, hpending, -⟩ := h.temp
  exact hdirs.next ▸ hpending.next_le

theorem id_lt (h : f.Created name t s s') : t.temp.id < s'.next := by
  obtain ⟨middle, p, -, hpending, -⟩ := h.temp
  exact hpending.next_eq ▸ Nat.lt_succ_self _

/-- A new target has an empty file without a final name. -/
theorem exists_open (h : f.Created name t s s') (hf : f.extension.isDotLetters = true)
    (hname : IsUnitName name) (hs : s.Numbered) : ∃ p, ¬ Settled p ∧ Open t p [] s' := by
  obtain ⟨middle, p, hdirs, hpending, hopened, hp⟩ := h.temp
  refine ⟨p, hp, ⟨hpending.place, hpending.node, fun q hq => ?_, hpending.text_eq, ?_⟩,
    h.closed_eq, by simp [hopened]⟩
  · -- the number of the new file is greater than those of all others
    by_contra hqp
    rw [hpending.others q hqp] at hq
    rcases hdirs.node q with hsame | ⟨-, hmade, -⟩
    · exact absurd (hs q _ (hsame ▸ hq)) (Nat.not_lt.mpr h.next_le)
    · cases hmade.symm.trans hq
  · rw [h.path_eq]
    exact target_ne hf hname s' hp

/-- No unit is touched. -/
theorem node?_target (h : f.Created name t s s') (hf : f.extension.isDotLetters = true)
    {other : Text} (hother : IsUnitName other) :
    s'.node? (s.target (f.pathFor other)) = s.node? (s.target (f.pathFor other)) := by
  obtain ⟨middle, p, hdirs, hpending, -, hp⟩ := h.temp
  rw [hpending.others _ (target_ne hf hother s hp)]
  exact (hdirs.node _).resolve_right fun hmade => not_undotted_target hf hother s hmade.2.2

end Created

/-! ## Files that agree with the ledger -/

/-- A target in a file that agrees with its entry. As long as it has not been released, its file is
open, holds the text and has no final name, and its unit has a place. -/
structure Agrees (f : FileUnits) (s : Store) (name : Text) (state : Option Text) (t : FileTarget) :
    Prop where
  isUnitName : IsUnitName name
  path_eq : t.path = f.pathFor name
  id_lt : t.temp.id < s.next
  unreleased : ∀ text ∈ state, t.failure = none ∧ (∃ q, s.place t.path = .ok q) ∧
    ∃ p, ¬ Settled p ∧ Open t p text s
  released : state = none → Released t s

theorem Agrees.spares {f : FileUnits} {s s' : Store} {name : Text} {state : Option Text}
    {t : FileTarget} {id : Nat} (h : f.Agrees s name state t) (hid : t.temp.id ≠ id)
    (hs : Spares id s s') : f.Agrees s' name state t where
  isUnitName := h.isUnitName
  path_eq := h.path_eq
  id_lt := Nat.lt_of_lt_of_le h.id_lt hs.next_le
  unreleased text htext := by
    obtain ⟨hfailure, ⟨q, hq⟩, p, hp, hopen⟩ := h.unreleased text htext
    exact ⟨hfailure, ⟨q, hs.place hq⟩, p, hp, hopen.spares hp hid hs⟩
  released hstate := (h.released hstate).spares hid hs

/-- A target that is released agrees with an entry without a text. -/
theorem Agrees.release {f : FileUnits} {s s' : Store} {name : Text} {state : Option Text}
    {t t' : FileTarget} {id : Nat} (h : f.Agrees s name state t) (hs : Spares id s s')
    (hreleased : Released t' s') (hpath : t'.path = t.path) (htemp : t'.temp = t.temp) :
    f.Agrees s' name none t' where
  isUnitName := h.isUnitName
  path_eq := hpath.trans h.path_eq
  id_lt := Nat.lt_of_lt_of_le (htemp ▸ h.id_lt) hs.next_le
  unreleased := nofun
  released _ := hreleased

/-- The units that were published are in their files, and no other unit is. -/
structure Shows (f : FileUnits) (published : List (Text × Text)) (s : Store) : Prop where
  held : ∀ name, IsUnitName name →
    s.held (s.target (f.pathFor name)) = (published.lookup name).map .file
  found : ∀ name text, published.lookup name = some text → ∃ q, s.place (f.pathFor name) = .ok q

/-- Files that agree with the ledger. -/
structure Follows (f : FileUnits) (ledger : Ledger) (targets : List (Option FileTarget))
    (s : Store) : Prop where
  numbered : s.Numbered
  directory : s.status (Path.clean f.dir) = .ok .directory
  tracked : Tracked (f.Agrees s) ledger.targets targets
  apart : ∀ (i j : Nat) t u, targets[i]? = some (some t) → targets[j]? = some (some u) →
    t.temp.id = u.temp.id → i = j
  shows : f.Shows ledger.published s

namespace Shows

variable {f : FileUnits} {published : List (Text × Text)} {s s' : Store} {p : Place} {id : Nat}

theorem place (h : f.Shows published s) (hs : Spares id s s') {name text : Text}
    (hname : published.lookup name = some text) : ∃ q, s'.place (f.pathFor name) = .ok q := by
  obtain ⟨q, hq⟩ := h.found name text hname
  exact ⟨q, hs.place hq⟩

/-- What happens at a place without a final name does not show. -/
theorem of_agreeBut (h : f.Shows published s) (hf : f.extension.isDotLetters = true)
    (hs : Spares id s s') (hagree : AgreeBut p s s') (hp : ¬ Settled p) :
    f.Shows published s' where
  held name hname := by
    rw [hagree.target, hagree.held _ (target_ne hf hname s hp), h.held name hname]
  found _ _ hname := h.place hs hname

/-- A new target does not show. -/
theorem of_created (h : f.Shows published s) (hf : f.extension.isDotLetters = true)
    (hs : s.Numbered) {name : Text} {t : FileTarget} (hcreated : f.Created name t s s') :
    f.Shows published s' where
  held other hother := by
    rw [Store.target_congr hcreated.spares.workingDir, ← h.held other hother]
    have hnode := hcreated.node?_target hf hother
    unfold Store.held
    rw [hnode]
    rcases hfound : s.node? (s.target (f.pathFor other)) with _ | _ | k
    · rfl
    · rfl
    · have hk : k ≠ t.temp.id :=
        Nat.ne_of_lt (Nat.lt_of_lt_of_le (hs _ k hfound) hcreated.next_le)
      simp [hcreated.spares.content k hk]
  found _ _ hother := h.place hcreated.spares hother

/-- A file that gets the final name of a unit shows under that name. -/
theorem cons (h : f.Shows published s) (hf : f.extension.isDotLetters = true)
    (hs : Spares id s s') {name text : Text} (hname : IsUnitName name)
    (hplace : ∃ q, s.place (f.pathFor name) = .ok q) (hp : ¬ Settled p)
    (hheld : ∀ r, s'.held r = if r = s.target (f.pathFor name) then some (.file text)
      else if r = p then none else s.held r) :
    f.Shows ((name, text) :: published) s' where
  held other hother := by
    rw [Store.target_congr hs.workingDir, hheld, if_neg (target_ne hf hother s hp)]
    by_cases heq : other = name
    · subst heq
      simp
    · -- units of different names have different targets
      have htarget : s.target (f.pathFor other) ≠ s.target (f.pathFor name) := fun htarget =>
        heq (name_eq_of_target_begins (s := s) hf hother hname (htarget ▸ List.prefix_rfl))
      rw [if_neg htarget, h.held other hother, List.lookup_cons, beq_eq_false_iff_ne.mpr heq]
  found other text' hlookup := by
    by_cases heq : other = name
    · subst heq
      obtain ⟨q, hq⟩ := hplace
      exact ⟨q, hs.place hq⟩
    · rw [List.lookup_cons, beq_eq_false_iff_ne.mpr heq] at hlookup
      exact h.place hs hlookup

/-- A unit is read from its file. -/
theorem load_iff (h : f.Shows published s) {name text : Text} (hname : IsUnitName name) :
    s.load (f.pathFor name) = .ok text ↔ published.lookup name = some text := by
  have hheld : s.held (s.target (f.pathFor name)) = some (.file text) ↔
      published.lookup name = some text := by
    rw [h.held name hname]
    simp
  rw [Store.load_eq_ok, ← hheld]
  constructor
  · rintro ⟨p, hp, hfile⟩
    rwa [← Store.eq_target_of_place hp]
  · intro hfile
    obtain ⟨q, hq⟩ := h.found name text (hheld.mp hfile)
    exact ⟨q, hq, Store.eq_target_of_place hq ▸ hfile⟩

/-- What is found at the path of a unit is a file. -/
theorem status_iff (h : f.Shows published s) {name : Text} (hname : IsUnitName name) :
    (∃ kind, s.status (f.pathFor name) = .ok kind) ↔
      ∃ text, s.load (f.pathFor name) = .ok text := by
  constructor
  · rintro ⟨_ | _, hstatus⟩
    · obtain ⟨p, hp, hnode⟩ := Store.status_eq_directory.mp hstatus
      have hheld := h.held name hname
      rw [← Store.eq_target_of_place hp, Store.held_eq_directory.mpr hnode] at hheld
      cases hlookup : published.lookup name <;> simp [hlookup] at hheld
    · exact Store.status_eq_regular.mp hstatus
  · intro hload
    exact ⟨_, Store.status_eq_regular.mpr hload⟩

end Shows

/-! ## Every call keeps files in agreement -/

theorem use_factory {m : Type → Type} [Host m] (f : FileUnits) (t : FileTarget) (call : Call) :
    (f.factory : TargetFactory m).use t call = t.perform call := by
  cases call <;> rfl

namespace Follows

variable {f : FileUnits} {ledger : Ledger} {targets : List (Option FileTarget)} {s s' : Store}
  {t t' : FileTarget} {name : Text} {i : Nat}

/-- At the start there is an empty directory. -/
theorem start (hf : f.extension.isDotLetters = true) (hs : s.Numbered)
    (hdir : s.status (Path.clean f.dir) = .ok .directory)
    (hempty : s.below (s.target f.dir) = []) : f.Follows {} [] s where
  numbered := hs
  directory := hdir
  tracked := ⟨rfl, by simp⟩
  apart _ _ _ _ ht := by simp at ht
  shows := ⟨fun _ hname => held_eq_none_of_empty hf hname hempty, by simp⟩

/-- A call on one target keeps the others in agreement. -/
theorem set (h : f.Follows ledger targets s) (ht : targets[i]? = some (some t))
    (hs : Spares t.temp.id s s') {state : Option Text} (hagrees : f.Agrees s' name state t')
    (htemp : t'.temp = t.temp) {published : List (Text × Text)} (hshows : f.Shows published s') :
    f.Follows ⟨ledger.targets.set i (name, state), published⟩ (targets.set i (some t')) s' where
  numbered := hs.numbered h.numbered (htemp ▸ hagrees.id_lt)
  directory := hs.status_directory h.directory
  tracked := by
    refine h.tracked.set (fun j u hj hu n st hu' => ?_) hagrees
    exact hu'.spares (fun hid => hj (h.apart j i u t hu ht hid)) hs
  apart := by
    -- the changed target has the file that it had, so its number is still that of no other
    have hbefore : ∀ (j : Nat) u, (targets.set i (some t'))[j]? = some (some u) →
        ∃ u', targets[j]? = some (some u') ∧ u'.temp = u.temp := by
      intro j u hu
      rcases getElem?_set_cases hu with ⟨-, hold⟩ | ⟨rfl, -, hnew⟩
      · exact ⟨u, hold, rfl⟩
      · exact ⟨t, ht, Option.some.inj hnew ▸ htemp.symm⟩
    intro j k u v hu hv hid
    obtain ⟨u', hu', hutemp⟩ := hbefore j u hu
    obtain ⟨v', hv', hvtemp⟩ := hbefore k v hv
    exact h.apart j k u' v' hu' hv' (by rw [hutemp, hvtemp, hid])
  shows := hshows

/-- The file of a new target is one more. -/
theorem append (h : f.Follows ledger targets s) (hs : Spares t.temp.id s s')
    (hnew : s.next ≤ t.temp.id) {state : Option Text} (hagrees : f.Agrees s' name state t)
    (hshows : f.Shows ledger.published s') :
    f.Follows { ledger with targets := ledger.targets ++ [(name, state)] } (targets ++ [some t])
      s' := by
  -- the file of the new target has a number that no target before it has
  have hother : ∀ (j : Nat) u, targets[j]? = some (some u) → u.temp.id ≠ t.temp.id := by
    intro j u hu hid
    have hj : j < ledger.targets.length :=
      h.tracked.length_eq ▸ (List.getElem?_eq_some_iff.mp hu).1
    obtain ⟨u', hu', hagrees'⟩ := h.tracked.target j _ _ (List.getElem?_eq_getElem hj)
    obtain rfl : u = u' := Option.some.inj (Option.some.inj (hu.symm.trans hu'))
    have := hagrees'.id_lt
    omega
  constructor
  case numbered => exact hs.numbered h.numbered hagrees.id_lt
  case directory => exact hs.status_directory h.directory
  case tracked =>
    exact h.tracked.append (fun j u hu n st hu' => hu'.spares (hother j u hu) hs) hagrees
  case apart =>
    -- two targets of one file: both old, or the new one twice
    intro j k u v hu hv hid
    rcases getElem?_concat_cases hu with hold | ⟨rfl, hnew⟩ <;>
      rcases getElem?_concat_cases hv with hold' | ⟨rfl, hnew'⟩
    · exact h.apart j k u v hold hold' hid
    · exact absurd (Option.some.inj hnew' ▸ hid) (hother j u hold)
    · exact absurd (Option.some.inj hnew ▸ hid.symm) (hother k v hold')
    · rfl
  case shows => exact hshows

/-- A new target is in agreement, and no unit is touched. -/
theorem create (h : f.Follows ledger targets s) (hf : f.extension.isDotLetters = true)
    (hname : IsUnitName name) (hcreated : f.Created name t s s') :
    f.Follows (ledger.step (.create name)) (targets ++ [some t]) s' := by
  obtain ⟨p, hp, hopen⟩ := hcreated.exists_open hf hname h.numbered
  refine h.append hcreated.spares hcreated.next_le ⟨hname, hcreated.path_eq, hcreated.id_lt, ?_,
    nofun⟩ (h.shows.of_created hf h.numbered hcreated)
  intro text htext
  obtain rfl : [] = text := Option.some.inj htext
  exact ⟨hcreated.failure_eq, hcreated.place, p, hp, hopen⟩

/-- What is done with a target that was released changes nothing. -/
theorem use_released {w : World} (h : f.Follows ledger targets w.store)
    (hentry : ledger.targets[i]? = some (name, none)) (call : Call) :
    ∃ targets', (f.factory.perform targets (.on i call) : StateM World _).run w = (targets', w) ∧
      f.Follows ledger targets' w.store := by
  obtain ⟨t, ht, hagrees⟩ := h.tracked.target i name none hentry
  obtain ⟨failure, t', huse, hpath, htemp, hreleased⟩ :=
    FileTarget.run_released (hagrees.released rfl) call
  rw [← use_factory] at huse
  refine ⟨_, TargetFactory.run_perform_on ht huse, ?_⟩
  have hsame : ledger.targets.set i (name, none) = ledger.targets := by
    obtain ⟨hlt, hget⟩ := List.getElem?_eq_some_iff.mp hentry
    rw [← hget, List.set_getElem_self]
  have hs : Spares t.temp.id w.store w.store := .refl _ _
  have hfollows := h.set ht hs (hagrees.release hs hreleased hpath htemp) htemp h.shows
  rwa [hsame] at hfollows

/-- What is done with a target that was not released is entered in the ledger. -/
theorem use_unreleased {w : World} {text : Text} (h : f.Follows ledger targets w.store)
    (hf : f.extension.isDotLetters = true)
    (hentry : ledger.targets[i]? = some (name, some text)) (call : Call) :
    ∃ targets' store, (f.factory.perform targets (.on i call) : StateM World _).run w =
        (targets', { w with store }) ∧
      f.Follows (ledger.use i name text call) targets' store := by
  obtain ⟨t, ht, hagrees⟩ := h.tracked.target i name (some text) hentry
  obtain ⟨hfailure, ⟨q, hq⟩, p, hp, hopen⟩ := hagrees.unreleased text rfl
  cases call with
  | write more =>
    obtain ⟨store, hrun, hopen', hs, hagree⟩ := FileTarget.run_write_open hopen more
    refine ⟨_, store, TargetFactory.run_perform_on ht hrun, h.set ht hs ?_ rfl
      (h.shows.of_agreeBut hf hs hagree hp)⟩
    refine ⟨hagrees.isUnitName, hagrees.path_eq, Nat.lt_of_lt_of_le hagrees.id_lt hs.next_le,
      fun text' htext' => ?_, nofun⟩
    obtain rfl : text ++ more = text' := Option.some.inj htext'
    exact ⟨hfailure, ⟨q, hs.place hq⟩, p, hp, hopen'⟩
  | close =>
    -- the first close publishes: what is at the path is a unit of that name or nothing, but no
    -- directory, so the rename goes through
    have hunit := hagrees.isUnitName
    have htarget : q = w.store.target (f.pathFor name) :=
      hagrees.path_eq ▸ Store.eq_target_of_place hq
    have hdirectory : w.store.node? q ≠ some .directory := by
      rw [ne_eq, htarget, ← Store.held_eq_directory, h.shows.held name hunit]
      cases ledger.published.lookup name <;> simp
    obtain ⟨store, hrun, hreleased, hs, hheld⟩ := FileTarget.run_close_sparing hopen hfailure hq
      (htarget ▸ settled_target hf hunit w.store) hdirectory
    refine ⟨_, store, TargetFactory.run_perform_on ht hrun,
      h.set ht hs (hagrees.release hs hreleased rfl rfl) rfl ?_⟩
    exact h.shows.cons hf hs hunit ⟨q, hagrees.path_eq ▸ hq⟩ hp (htarget ▸ hheld)
  | abort =>
    obtain ⟨store, hrun, hreleased, hs, hagree⟩ := FileTarget.run_abort_sparing hopen
    exact ⟨_, store, TargetFactory.run_perform_on ht hrun,
      h.set ht hs (hagrees.release hs hreleased rfl rfl) rfl
        (h.shows.of_agreeBut hf hs hagree hp)⟩

/-- What is done with a target keeps files in agreement. -/
theorem use {w : World} (h : f.Follows ledger targets w.store)
    (hf : f.extension.isDotLetters = true) (i : Nat) (call : Call) :
    ∃ targets' store, (f.factory.perform targets (.on i call) : StateM World _).run w =
        (targets', { w with store }) ∧
      f.Follows (ledger.step (.on i call)) targets' store := by
  rcases hentry : ledger.targets[i]? with _ | ⟨name, _ | text⟩ <;> simp only [Ledger.step, hentry]
  · exact ⟨targets, w.store, TargetFactory.run_perform_absent (h.tracked.absent hentry), h⟩
  · obtain ⟨targets', hrun, hfollows⟩ := h.use_released hentry call
    exact ⟨targets', w.store, hrun, hfollows⟩
  · exact h.use_unreleased hf hentry call

/-- Every call keeps files in agreement, unless it asks for a target and is refused. -/
theorem step {w : World} (h : f.Follows ledger targets w.store)
    (hf : f.extension.isDotLetters = true) {call : TargetCall}
    (hcall : ∀ name, call = .create name → IsUnitName name) :
    ∃ targets' w', (f.factory.perform targets call : StateM World _).run w = (targets', w') ∧
      (none ∈ targets' ∨ f.Follows (ledger.step call) targets' w'.store) := by
  cases call with
  | create name =>
    rcases hcreate : (f.create name : StateM World _).run w with ⟨e | t, w'⟩
    · exact ⟨_, w', TargetFactory.run_perform_refused hcreate,
        .inl (List.mem_append_right _ List.mem_cons_self)⟩
    · have hname : IsUnitName name := hcall name rfl
      have hcreated := created_of_create hf hname h.directory hcreate
      exact ⟨_, w', TargetFactory.run_perform_create hcreate, .inr (h.create hf hname hcreated)⟩
  | on i call =>
    obtain ⟨targets', store, hrun, hfollows⟩ := h.use hf i call
    exact ⟨targets', _, hrun, .inr hfollows⟩

end Follows

/-! ## Files and memory -/

/-- A target that was refused is missing for good. -/
theorem none_mem_perform {σ : Type} {f : TargetFactory (StateM σ)}
    {targets : List (Option f.Target)} (h : none ∈ targets) (call : TargetCall) (s : σ) :
    ∃ targets' s', (f.perform targets call).run s = (targets', s') ∧ none ∈ targets' := by
  cases call with
  | create name =>
    rcases hcreate : (f.create name).run s with ⟨e | t, s'⟩
    · exact ⟨_, s', TargetFactory.run_perform_refused hcreate, List.mem_append_left _ h⟩
    · exact ⟨_, s', TargetFactory.run_perform_create hcreate, List.mem_append_left _ h⟩
  | on i call =>
    rcases ht : targets[i]? with _ | _ | t
    · exact ⟨targets, s, TargetFactory.run_perform_absent ht, h⟩
    · refine ⟨targets, s, ?_, h⟩
      simp only [TargetFactory.perform, ht]
      rfl
    · rcases huse : (f.use t call).run s with ⟨⟨failure, t'⟩, s'⟩
      refine ⟨_, s', TargetFactory.run_perform_on ht huse, ?_⟩
      -- the call is on another target than the one that is missing
      obtain ⟨j, hj⟩ := List.mem_iff_getElem?.mp h
      have hne : i ≠ j := by
        rintro rfl
        cases hj.symm.trans ht
      exact List.mem_iff_getElem?.mpr ⟨j, by rw [List.getElem?_set_ne hne, hj]⟩

/-- **Files and memory agree.** The same calls on any number of targets, in any order, are carried
out with targets in memory and with targets in files below an empty directory. If no target was
refused, a unit is in memory exactly if there is something at its path, and in memory as in the file
is the text that was written, before its first close, to the target of that name that was the last
to be closed without having been released before. -/
theorem files_agree_with_memory {f : FileUnits} (hf : f.extension.isDotLetters = true)
    {w w' : World} (hs : w.store.Numbered)
    (hdir : w.store.status (Path.clean f.dir) = .ok .directory)
    (hempty : w.store.below (w.store.target f.dir) = []) {calls : List TargetCall}
    (hnames : ∀ name, .create name ∈ calls → IsUnitName name)
    {targets : List (Option FileTarget)}
    (hrun : (f.factory.performAll calls : StateM World _).run w = (targets, w'))
    (hcreated : none ∉ targets) (label : Text) :
    ∃ made units, ((MemoryUnits.factory label).performAll calls).run ⟨label, []⟩ = (made, units) ∧
      ∀ name, IsUnitName name →
        ((∃ text, (name, text) ∈ units.results) ↔
          ∃ kind, w'.store.status (f.pathFor name) = .ok kind) ∧
        ∀ text, ((name, text) ∈ units.results ↔ TargetCalls.Publishes calls name text) ∧
          (w'.store.load (f.pathFor name) = .ok text ↔ TargetCalls.Publishes calls name text) := by
  obtain ⟨made, units, hmemory, hresults⟩ := MemoryUnits.mem_results_iff label calls
  -- each call keeps the ledger, unless a target was refused before; the list of targets remembers
  -- a refusal, so in the end there was none
  have hstep : ∀ call ∈ calls, ∀ (ledger : Ledger) (targets : List (Option FileTarget))
      (w : World), none ∈ targets ∨ f.Follows ledger targets w.store →
      ∃ targets' w', (f.factory.perform targets call : StateM World _).run w = (targets', w') ∧
        (none ∈ targets' ∨ f.Follows (ledger.step call) targets' w'.store) := by
    rintro call hcall ledger targets w (hnone | hfollows)
    · obtain ⟨targets', w', hrun, hnone'⟩ := none_mem_perform (f := f.factory) hnone call w
      exact ⟨targets', w', hrun, .inl hnone'⟩
    · exact hfollows.step hf fun name hname => hnames name (hname ▸ hcall)
  obtain ⟨targets', w'', hrun', hend⟩ := f.factory.run_performAll
    (fun ledger targets (w : World) => none ∈ targets ∨ f.Follows ledger targets w.store)
    (.inr (.start hf hs hdir hempty)) hstep
  obtain ⟨rfl, rfl⟩ := Prod.mk.inj (hrun.symm.trans hrun')
  have hshows := (hend.resolve_left hcreated).shows
  have hload : ∀ name, IsUnitName name → ∀ text,
      w'.store.load (f.pathFor name) = .ok text ↔ TargetCalls.Publishes calls name text :=
    fun name hname text => (hshows.load_iff hname).trans Ledger.publishes_iff
  refine ⟨made, units, hmemory, fun name hname => ⟨?_, fun text => ?_⟩⟩
  · rw [hshows.status_iff hname]
    simp only [hresults, hload name hname]
  · exact ⟨hresults name text, hload name hname text⟩

/-- Calls on three targets, two of which are for one unit. Of these, the first one is closed last
and then closed again and written to, and the other one is aborted after it was closed. The third
target is aborted before it is closed. -/
def crossedCalls : List TargetCall :=
  [.create "a.B", .create "a.B", .on 0 (.write "x"), .on 1 (.write "y"), .on 1 .close,
    .on 0 (.write "z"), .on 0 .close, .on 0 .close, .on 1 .abort, .on 0 (.write "late"),
    .create "C", .on 2 (.write "c"), .on 2 .abort, .on 2 .close]

/-- An empty directory. -/
def emptyDirectory : World := { store := { nodes := [([("out" : Text)], .directory)] } }

/-- What the crossed calls leave in the empty directory. -/
def crossedFiles : List (Option FileTarget) × World :=
  ((⟨"out", ".java"⟩ : FileUnits).factory.performAll crossedCalls : StateM World _).run
    emptyDirectory

/-- Of two targets of one unit, what counts is which one was closed last. -/
theorem files_agree_with_memory_crossed :
    crossedFiles.2.store.load "out/a/B.java" = .ok "xz" ∧
      TargetCalls.Publishes crossedCalls "a.B" "xz" ∧
      ∃ made units, ((MemoryUnits.factory "m").performAll crossedCalls).run ⟨"m", []⟩ =
          (made, units) ∧
        (("a.B" : Text), ("xz" : Text)) ∈ units.results ∧
        ∀ text, (("C" : Text), text) ∉ units.results := by
  have hload : crossedFiles.2.store.load "out/a/B.java" = .ok "xz" := by decide +kernel
  have hmissing : ∀ kind, crossedFiles.2.store.status "out/C.java" ≠ .ok kind := by
    intro kind
    cases kind <;> decide +kernel
  have hcreated : none ∉ crossedFiles.1 := by decide +kernel
  have hnumbered : emptyDirectory.store.Numbered := by
    intro p id hp
    by_cases hout : p = [("out" : Text)]
    · subst hout
      cases hp
    · by_cases hnil : p = []
      · subst hnil
        cases hp
      · rw [Store.node?_of_ne_nil hnil] at hp
        simp [emptyDirectory, List.lookup_cons, beq_eq_false_iff_ne.mpr hout] at hp
  have hnames : ∀ name, .create name ∈ crossedCalls → IsUnitName name := by
    intro name hname
    have heither : name = "a.B" ∨ name = "C" := by simpa [crossedCalls] using hname
    rcases heither with rfl | rfl
    · exact .inr (by decide)
    · exact .inl (by decide)
  obtain ⟨made, units, hmemory, hagree⟩ := files_agree_with_memory (f := ⟨"out", ".java"⟩)
    (by decide) hnumbered (by decide) (by decide) hnames (Prod.eta crossedFiles).symm hcreated "m"
  have hunit := hagree "a.B" (.inr (by decide))
  have hother := hagree "C" (.inl (by decide))
  have hpublishes := (hunit.2 "xz").2.mp hload
  refine ⟨hload, hpublishes, made, units, hmemory, (hunit.2 "xz").1.mpr hpublishes, ?_⟩
  intro text hmem
  obtain ⟨kind, hkind⟩ := hother.1.mp ⟨text, hmem⟩
  exact hmissing kind hkind

end FileUnits

end AdtCompiler
