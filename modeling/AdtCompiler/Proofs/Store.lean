import AdtCompiler.Host.Store
import AdtCompiler.Proofs.FreshName
import AdtCompiler.Proofs.Path

/-!
# What a store holds

Numbers of contents are a matter of the store alone: seen from outside, a place holds nothing, a
directory or a text. A file is written by giving a new name to a file that was filled under a name
of its own. Through this view, all that happens before the renaming adds a file where nothing was,
and the renaming changes two places.

## Contents

- `Store.held`: what a place holds, seen from outside
- `Store.Rewrites`: all that may differ after files were written
- `Store.Pending`: a store with a file that has no final name yet
-/

namespace AdtCompiler

/-- What a place holds, seen from outside. -/
inductive Held where
  | directory
  | file (text : Text)
deriving Repr, DecidableEq

namespace Store

variable {s s' : Store} {p q : Place} {path text : Text}

/-- What a place holds, seen from outside. -/
def held (s : Store) (p : Place) : Option Held :=
  (s.node? p).map fun
    | .directory => .directory
    | .file id => .file (s.content id)

/-- All numbers of files have been given away. -/
def Numbered (s : Store) : Prop := ∀ p id, s.node? p = some (.file id) → id < s.next

/-! ## Nodes and contents -/

theorem held_eq_directory : s.held p = some .directory ↔ s.node? p = some .directory := by
  unfold held
  rcases s.node? p with _ | _ | id <;> simp

theorem held_eq_file :
    s.held p = some (.file text) ↔ ∃ id, s.node? p = some (.file id) ∧ s.content id = text := by
  unfold held
  rcases s.node? p with _ | _ | id <;> simp

theorem node?_of_ne_nil (hp : p ≠ []) : s.node? p = s.nodes.lookup p := by
  simp [node?, hp]

/-- Looking up behind a filter on keys. -/
theorem lookup_filter {α β : Type} [BEq α] [LawfulBEq α] (keep : α → Bool) (l : List (α × β))
    (a : α) : (l.filter fun x => keep x.1).lookup a = if keep a then l.lookup a else none := by
  induction l with
  | nil => simp
  | cons x l ih =>
    obtain ⟨b, v⟩ := x
    by_cases hab : a = b
    · subst hab
      by_cases hkeep : keep a <;> simp [hkeep, ih]
    · have hne : (a == b) = false := beq_eq_false_iff_ne.mpr hab
      by_cases hkeep : keep b <;> simp [hkeep, ih, List.lookup_cons, hne]

theorem lookup_filter_ne {α β : Type} [BEq α] [LawfulBEq α] (l : List (α × β)) (a b : α) :
    (l.filter (·.1 != a)).lookup b = if b == a then none else l.lookup b := by
  rw [lookup_filter (· != a)]
  by_cases hba : b = a <;> simp [hba]

theorem mem_of_lookup {α β : Type} [BEq α] [LawfulBEq α] {l : List (α × β)} {a : α} {b : β}
    (h : l.lookup a = some b) : (a, b) ∈ l := by
  obtain ⟨before, behind, rfl, -⟩ := List.lookup_eq_some_iff.mp h
  simp

/-- What is true of all nodes in the list of a store is true of all places that hold something. -/
theorem forall_node? {P : Place → Node → Prop} (hroot : P [] .directory)
    (hnodes : ∀ x ∈ s.nodes, P x.1 x.2) (q : Place) (node : Node) (h : s.node? q = some node) :
    P q node := by
  unfold node? at h
  split at h
  case isTrue hnil =>
    cases h
    rw [List.isEmpty_iff.mp hnil]
    exact hroot
  case isFalse => exact hnodes _ (mem_of_lookup h)

/-- What is found behind a change of keys was there before, under another key. -/
theorem exists_lookup_of_map {α β : Type} [BEq α] [LawfulBEq α] {f : α → α} {l : List (α × β)}
    {a : α} {v : β} (h : (l.map fun x => (f x.1, x.2)).lookup a = some v) :
    ∃ b, f b = a ∧ l.lookup b = some v := by
  induction l with
  | nil => cases h
  | cons x l ih =>
    obtain ⟨b, u⟩ := x
    by_cases hab : a = f b
    · refine ⟨b, hab.symm, ?_⟩
      simpa [hab] using h
    · simp only [List.map_cons, List.lookup_cons, beq_eq_false_iff_ne.mpr hab] at h
      obtain ⟨c, hc, hlookup⟩ := ih h
      refine ⟨c, hc, ?_⟩
      have hcb : (c == b) = false := beq_eq_false_iff_ne.mpr fun hcb => hab (hcb ▸ hc.symm)
      rwa [List.lookup_cons, hcb]

theorem node?_putNode (hp : p ≠ []) (node : Node) (q : Place) :
    (s.putNode p node).node? q = if q = p then some node else s.node? q := by
  by_cases hq : q = []
  · simp [node?, hq, Ne.symm hp]
  · rw [node?_of_ne_nil hq, node?_of_ne_nil hq]
    simp only [putNode, List.lookup_append, lookup_filter_ne]
    by_cases hqp : q = p <;> simp [hqp, List.lookup_cons, beq_eq_false_iff_ne.mpr]

theorem node?_dropNode (hp : p ≠ []) (q : Place) :
    (s.dropNode p).node? q = if q = p then none else s.node? q := by
  by_cases hq : q = []
  · simp [node?, hq, Ne.symm hp]
  · rw [node?_of_ne_nil hq, node?_of_ne_nil hq, dropNode, lookup_filter_ne]
    simp

theorem content_putContent (s : Store) (id : Nat) (text : Text) (other : Nat) :
    (s.putContent id text).content other = if other = id then text else s.content other := by
  simp only [content, putContent, List.lookup_cons, lookup_filter_ne]
  by_cases h : other = id <;> simp [h, beq_eq_false_iff_ne.mpr]

/-! ## Places -/

/-- Where directories stay, paths lead to the same places. -/
theorem follow_mono {here : Place} {names : List Text} (h : s.follow here names = .ok p)
    (hdirs : ∀ p, s.node? p = some .directory → s'.node? p = some .directory) :
    s'.follow here names = .ok p := by
  fun_induction follow s here names <;> grind [follow]

theorem place_mono (h : s.place path = .ok p) (hdir : s'.workingDir = s.workingDir)
    (hdirs : ∀ p, s.node? p = some .directory → s'.node? p = some .directory) :
    s'.place path = .ok p := by
  unfold place at h ⊢
  rw [hdir]
  split at h
  · cases h
  · split at h
    · cases h
    · simp_all [follow_mono h hdirs]

theorem find_eq_ok {node : Node} :
    s.find path = .ok (p, node) ↔ s.place path = .ok p ∧ s.node? p = some node := by
  unfold find
  rcases s.place path with e | r
  · simp [bind, Except.bind]
  · rcases h : s.node? r with _ | found <;> simp [bind, Except.bind] <;> grind

theorem load_eq_ok :
    s.load path = .ok text ↔ ∃ p, s.place path = .ok p ∧ s.held p = some (.file text) := by
  unfold load
  rcases h : s.find path with e | ⟨p, node⟩
  · constructor
    · simp [blame, bind, Except.bind]
    · rintro ⟨p, hp, hheld⟩
      obtain ⟨id, hnode, -⟩ := held_eq_file.mp hheld
      rw [find_eq_ok.mpr ⟨hp, hnode⟩] at h
      cases h
  · obtain ⟨hp, hnode⟩ := find_eq_ok.mp h
    cases node <;> simp [blame, bind, Except.bind, hp, held, hnode]

theorem exists_load (h : (s.load path).toOption.isSome = true) : ∃ t, s.load path = .ok t := by
  generalize s.load path = loaded at h ⊢
  cases loaded with
  | error e => cases h
  | ok t => exact ⟨t, rfl⟩

/-- A file is renamed over anything but a directory. -/
theorem rename_file {old new : Text} {id : Nat} (hold : s.find old = .ok (p, .file id))
    (hnew : s.place new = .ok q) (hdirectory : s.node? q ≠ some .directory) (hne : p ≠ q) :
    s.rename old new = .ok ((s.dropNode p).putNode q (.file id)) := by
  rcases htarget : s.node? q with _ | _ | other
  · simp [rename, hold, hnew, htarget, hne, bind, Except.bind]
  · exact absurd htarget hdirectory
  · simp [rename, hold, hnew, htarget, hne, bind, Except.bind]

/-- Renaming does nothing, or it moves a file, or a directory with all that is in it. -/
theorem rename_cases {old new : Text} (h : s.rename old new = .ok s') :
    ∃ p q node, s.find old = .ok (p, node) ∧ s.place new = .ok q ∧ (s' = s ∨
      s.node? q ≠ some .directory ∧ (∃ id, node = .file id ∧ s' = (s.dropNode p).putNode q node) ∨
      node = .directory ∧ ¬ p.isPrefixOf q ∧ s' = s.moveTree p q) := by
  rcases hfind : s.find old with e | ⟨p, node⟩
  · simp [rename, hfind, bind, Except.bind] at h
  · rcases hplace : s.place new with e | q
    · simp [rename, hfind, hplace, bind, Except.bind] at h
    · refine ⟨p, q, node, rfl, rfl, ?_⟩
      simp only [rename, hfind, hplace, bind, Except.bind] at h
      grind

/-- Removing a tree does nothing, or it takes away all nodes at or below a place. The root stays. -/
theorem removeTree_cases (h : s.removeTree path = .ok s') :
    s' = s ∨ ∃ p, s.place path = .ok p ∧ s'.contents = s.contents ∧ s'.next = s.next ∧
      s'.workingDir = s.workingDir ∧
      ∀ r, s'.node? r = if r ≠ [] ∧ p <+: r then none else s.node? r := by
  unfold removeTree at h
  split at h
  · cases h
  · split at h
    · cases h
      exact .inl rfl
    · rename_i p node hfind
      cases h
      refine .inr ⟨p, (find_eq_ok.mp hfind).1, rfl, rfl, rfl, fun r => ?_⟩
      -- the root is not in the list of nodes, which is filtered
      by_cases hr : r = []
      · simp [node?, hr]
      · rw [node?_of_ne_nil hr, node?_of_ne_nil hr, lookup_filter fun q => !p.isPrefixOf q]
        simp only [← List.isPrefixOf_iff_prefix]
        by_cases hbelow : p.isPrefixOf r <;> simp [hr, hbelow]

/-- What is there when a tree was removed was there before. -/
theorem node?_of_removeTree {r : Place} {node : Node} (h : s.removeTree path = .ok s')
    (hr : s'.node? r = some node) : s.node? r = some node := by
  rcases removeTree_cases h with rfl | ⟨p, -, -, -, -, hnode⟩
  · exact hr
  · rw [hnode] at hr
    split at hr
    · cases hr
    · exact hr

theorem nodes_moveTree (s : Store) (p q : Place) :
    (s.moveTree p q).nodes = (s.nodes.filter (·.1 != q)).map fun x =>
      (if p.isPrefixOf x.1 then q ++ x.1.drop p.length else x.1, x.2) := by
  refine List.map_congr_left fun (x, node) _ => ?_
  by_cases hbelow : p.isPrefixOf x <;> simp [hbelow]

/-- What is found behind the moving of a tree was there before, at its place or in the tree. -/
theorem exists_node?_of_moveTree {r : Place} {node : Node} (hp : p ≠ []) (hr : r ≠ [])
    (h : (s.moveTree p q).node? r = some node) :
    ∃ r', s.node? r' = some node ∧ (r' = r ∨ ∃ rest, r' = p ++ rest ∧ r = q ++ rest) := by
  rw [node?_of_ne_nil hr, nodes_moveTree] at h
  obtain ⟨r', hmoved, hlookup⟩ := exists_lookup_of_map
    (f := fun x => if p.isPrefixOf x then q ++ x.drop p.length else x) h
  rw [lookup_filter_ne] at hlookup
  split at hlookup
  · cases hlookup
  · split at hmoved
    · rename_i hbelow
      obtain ⟨rest, rfl⟩ := List.isPrefixOf_iff_prefix.mp hbelow
      refine ⟨p ++ rest, ?_, .inr ⟨rest, rfl, by simpa using hmoved.symm⟩⟩
      rw [node?_of_ne_nil (by simp [hp]), hlookup]
    · exact ⟨r', by rw [node?_of_ne_nil (hmoved ▸ hr), hlookup], .inl hmoved⟩

/-! ## Written files -/

/-- What may differ after files were written: a file that is there was there before, with its text,
or is a new one, and a file that was there is still there unless a new one took its place.
Directories stay. -/
structure Rewrites (new : Place → Text → Prop) (s s' : Store) : Prop where
  workingDir : s'.workingDir = s.workingDir
  numbered : s'.Numbered
  directory : ∀ p, s.node? p = some .directory → s'.node? p = some .directory
  file : ∀ p t, s'.held p = some (.file t) → s.held p = some (.file t) ∨ new p t
  stays : ∀ p t, s.held p = some (.file t) → ∃ t', s'.held p = some (.file t') ∧ (t' = t ∨ new p t')

namespace Rewrites

variable {new new' : Place → Text → Prop} {s'' : Store}

theorem refl (h : s.Numbered) : Rewrites new s s :=
  ⟨rfl, h, fun _ h => h, fun _ _ h => .inl h, fun _ t h => ⟨t, h, .inl rfl⟩⟩

theorem mono (h : Rewrites new s s') (hnew : ∀ p t, new p t → new' p t) : Rewrites new' s s' where
  workingDir := h.workingDir
  numbered := h.numbered
  directory := h.directory
  file p t hp := (h.file p t hp).imp_right (hnew p t)
  stays p t hp := by
    obtain ⟨t', ht', hor⟩ := h.stays p t hp
    exact ⟨t', ht', hor.imp_right (hnew p t')⟩

theorem trans (h : Rewrites new s s') (h' : Rewrites new s' s'') : Rewrites new s s'' where
  workingDir := h'.workingDir.trans h.workingDir
  numbered := h'.numbered
  directory p hp := h'.directory p (h.directory p hp)
  file p t hp := (h'.file p t hp).elim (h.file p t) .inr
  stays p t hp := by
    obtain ⟨t', ht', hor⟩ := h.stays p t hp
    obtain ⟨t'', ht'', rfl | hnew⟩ := h'.stays p t' ht'
    · exact ⟨t'', ht'', hor⟩
    · exact ⟨t'', ht'', .inr hnew⟩

/-- Places that could be found before are the same afterwards. -/
theorem place (h : Rewrites new s s') (hp : s.place path = .ok p) : s'.place path = .ok p :=
  place_mono hp h.workingDir h.directory

/-- A file of which there is no new version keeps its text. -/
theorem held_of_not_new (h : Rewrites new s s') (hp : s.held p = some (.file text))
    (hnew : ∀ t, ¬ new p t) : s'.held p = some (.file text) := by
  obtain ⟨t', ht', rfl | hbad⟩ := h.stays p text hp
  · exact ht'
  · exact absurd hbad (hnew t')

/-- A file of which there is no new version can be read as before. -/
theorem load (h : Rewrites new s s') (hload : s.load path = .ok text)
    (hnew : ∀ q, s.place path = .ok q → ∀ x, ¬ new q x) : s'.load path = .ok text := by
  obtain ⟨q, hq, hheld⟩ := load_eq_ok.mp hload
  exact load_eq_ok.mpr ⟨q, h.place hq, h.held_of_not_new hheld (hnew q hq)⟩

/-- Whether files were rewritten can be seen place by place, if the contents that were there have
kept their numbers. -/
theorem of_nodes (hs : s.Numbered) (hnumbered : s'.Numbered)
    (hdir : s'.workingDir = s.workingDir)
    (hcontent : ∀ id < s.next, s'.content id = s.content id)
    (hnode : ∀ q, s'.node? q = s.node? q ∨ s.node? q = none ∧ s'.node? q = some .directory ∨
      s.node? q ≠ some .directory ∧ ∃ t, s'.held q = some (.file t) ∧ new q t) :
    Rewrites new s s' := by
  -- A node that is the same holds the same, since no number of a content was used again.
  have hsame : ∀ q, s'.node? q = s.node? q → s'.held q = s.held q := by
    intro q hq
    rcases h : s.node? q with _ | _ | id
    · simp [held, hq, h]
    · simp [held, hq, h]
    · simp [held, hq, h, hcontent id (hs q id h)]
  refine ⟨hdir, hnumbered, fun q hq => ?_, fun q t hq => ?_, fun q t hq => ?_⟩
  · rcases hnode q with h | ⟨h, -⟩ | ⟨h, -⟩
    · rw [h, hq]
    · rw [h] at hq; cases hq
    · exact absurd hq h
  · rcases hnode q with h | ⟨-, h⟩ | ⟨-, t', ht', hnew⟩
    · exact .inl (hsame q h ▸ hq)
    · rw [held_eq_directory.mpr h] at hq; cases hq
    · rw [ht'] at hq; cases hq; exact .inr hnew
  · rcases hnode q with h | ⟨h, -⟩ | ⟨-, t', ht', hnew⟩
    · exact ⟨t, hsame q h ▸ hq, .inl rfl⟩
    · simp [held, h] at hq
    · exact ⟨t', ht', .inr hnew⟩

end Rewrites

/-- A new directory changes no file. -/
theorem rewrites_makeDir (hs : s.Numbered) (h : s.makeDir path = .ok s') :
    Rewrites (fun _ _ => False) s s' := by
  obtain ⟨p, hnone, rfl⟩ : ∃ p, s.node? p = none ∧ s' = s.putNode p .directory := by
    simp only [makeDir, blame, bind, Except.bind] at h
    grind
  have hp : p ≠ [] := fun hp => by simp [node?, hp] at hnone
  have hnode : ∀ q, (s.putNode p .directory).node? q = s.node? q ∨
      s.node? q = none ∧ (s.putNode p .directory).node? q = some .directory := by
    intro q
    rw [node?_putNode hp]
    by_cases hq : q = p <;> simp [hq, hnone]
  refine .of_nodes hs (fun q id hq => ?_) rfl (fun _ _ => rfl) fun q => (hnode q).imp_right .inl
  rcases hnode q with h | ⟨-, h⟩ <;> rw [h] at hq
  · exact hs q id hq
  · cases hq

/-! ## Files without a final name -/

/-- A store with one file more than another, under a handle and at a place of its own. The number
of the file is greater than those of all others. -/
structure Pending (s : Store) (h : Handle) (p : Place) (text : Text) (s' : Store) : Prop where
  place : s'.place h.name = .ok p
  ne_nil : p ≠ []
  fresh : s.node? p = none
  next_le : s.next ≤ h.id
  next_eq : s'.next = h.id + 1
  workingDir : s'.workingDir = s.workingDir
  node : s'.node? p = some (.file h.id)
  others : ∀ q, q ≠ p → s'.node? q = s.node? q
  text_eq : s'.content h.id = text
  contents : ∀ id, id ≠ h.id → s'.content id = s.content id

/-- A name for a new file has a number in its middle and occurs nowhere. -/
theorem exists_newName (s : Store) (start ending : Text) :
    ∃ n, s.newName start ending = start ++ Text.decimal n ++ ending ∧
      ∀ x ∈ s.nodes, s.newName start ending ∉ x.1 := by
  have hnames : Function.Injective fun n => start ++ Text.decimal n ++ ending := fun m n hmn =>
    Text.decimal_injective (List.append_cancel_left (List.append_cancel_right hmn))
  obtain ⟨n, -, hname, hfree, -⟩ :=
    FreshName.exists_search hnames (s.nodes.flatMap (·.1)) s.next
  refine ⟨n, hname, fun x hx hmem => hfree ?_⟩
  rw [newName, hname] at hmem
  exact List.mem_flatMap.mpr ⟨x, hx, hmem⟩

theorem plain_newName (s : Store) {start : Text} (hslash : Path.slash ∉ start)
    (hlength : 2 ≤ start.length) : Path.Plain (s.newName start []) := by
  obtain ⟨n, hname, -⟩ := s.exists_newName start []
  have hdigits : Path.slash ∉ Text.decimal n := fun h => by
    have := List.all_eq_true.mp (Text.all_isDigit_decimal n) _ h
    simp [Text.isDigit, Path.slash] at this
  refine Path.plain_of_length (by simp [hname, hslash, hdigits]) ?_
  have := List.length_pos_iff.mpr (Text.decimal_ne_nil n)
  simp only [hname, List.append_nil, List.length_append]
  omega

/-- The last name of a place does not end with a digit, as the names of new files do. -/
def Settled (p : Place) : Prop :=
  ∃ above front last, p = above ++ [front ++ [last]] ∧ Text.isDigit last = false

theorem Settled.ne_newName {start : Text} {above : Place} (hq : Settled q) :
    q ≠ above ++ [s.newName start []] := by
  rintro rfl
  obtain ⟨n, hname, -⟩ := s.exists_newName start []
  obtain ⟨above', front, last, heq, hlast⟩ := hq
  obtain ⟨digits, d, hd⟩ : ∃ digits d, Text.decimal n = digits ++ [d] :=
    ⟨_, _, (List.dropLast_append_getLast (Text.decimal_ne_nil n)).symm⟩
  have hdigit : Text.isDigit d = true :=
    List.all_eq_true.mp (Text.all_isDigit_decimal n) d (by simp [hd])
  have hend : s.newName start [] = front ++ [last] := by
    simpa using (List.append_inj_right' heq rfl)
  rw [hname, hd, List.append_nil, ← List.append_assoc] at hend
  have : d = last := by simpa using (List.append_inj_right' hend rfl)
  simp [← this, hdigit] at hlast

namespace Pending

variable {h : Handle}

/-- A new file is empty and open, and its name tells it from all others. -/
theorem of_createTemp {dir start : Text} (hlength : 2 ≤ start.length)
    (hcreate : s.createTemp dir start [] = .ok (s', h)) :
    ∃ above, Pending s h (above ++ [s.newName start []]) [] s' ∧
      s'.opened.lookup h.id = some h.id := by
  unfold createTemp at hcreate
  split at hcreate
  · cases hcreate
  · rename_i hpattern
    have hplain : Path.Plain (s.newName start []) :=
      s.plain_newName (fun hslash => hpattern (by simp [hslash])) hlength
    rcases hp : s.place (Path.inside dir (s.newName start [])) with e | p
    · simp [hp, blame, bind, Except.bind] at hcreate
    · simp only [hp, blame, bind, Except.bind, Except.ok.injEq, Prod.mk.injEq] at hcreate
      obtain ⟨rfl, rfl⟩ := hcreate
      obtain ⟨above, rfl⟩ := place_inside hplain hp
      generalize hname : s.newName start [] = name at hp ⊢
      have hne : above ++ [name] ≠ [] := by simp
      -- The new name is chosen so that no node of the store ends with it.
      have hfresh : s.node? (above ++ [name]) = none := by
        rw [node?_of_ne_nil hne, List.lookup_eq_none_iff]
        intro x hx
        simp only [bne_iff_ne]
        intro heq
        obtain ⟨n, -, hfree⟩ := s.exists_newName start []
        exact hfree x hx (by simp [← heq, hname])
      have hnode := node?_putNode (s := s) hne (.file s.next)
      refine ⟨above, ⟨?_, hne, hfresh, Nat.le_refl _, rfl, rfl, ?_, fun q hq => ?_, ?_, ?_⟩, ?_⟩
      · refine place_mono hp rfl fun q hq => ?_
        change (s.putNode (above ++ [name]) (.file s.next)).node? q = _
        rw [hnode, if_neg (fun h => by simp [h, hfresh] at hq), hq]
      · exact (hnode _).trans (if_pos rfl)
      · exact (hnode q).trans (if_neg hq)
      · simp [content]
      · intro id hid
        simp [content, List.lookup_cons, beq_eq_false_iff_ne.mpr hid]
      · simp

/-- Writing to an open file succeeds and changes no other. -/
theorem append (hpending : Pending s h p text s') (hopen : s'.opened.lookup h.id = some h.id)
    (more : Text) :
    ∃ s'', s'.append h more = .ok s'' ∧ Pending s h p (text ++ more) s'' ∧
      s''.opened.lookup h.id = some h.id := by
  refine ⟨s'.putContent h.id (s'.content h.id ++ more), by simp [Store.append, hopen], ?_, hopen⟩
  have hcontent := s'.content_putContent h.id (s'.content h.id ++ more)
  exact { hpending with
    place := place_mono hpending.place rfl fun _ hq => hq
    text_eq := by rw [hcontent, if_pos rfl, hpending.text_eq]
    contents := fun id hid => by rw [hcontent, if_neg hid, hpending.contents id hid] }

/-- Closing an open file succeeds once and changes nothing else. -/
theorem close (hpending : Pending s h p text s') (hopen : s'.opened.lookup h.id = some h.id) :
    ∃ s'', s'.close h = .ok s'' ∧ Pending s h p text s'' ∧
      s''.close h = .error ⟨.closing, [h.name], .alreadyClosed⟩ := by
  refine ⟨{ s' with opened := s'.opened.filter (·.1 != h.id) }, by simp [Store.close, hopen],
    { hpending with place := place_mono hpending.place rfl fun _ hq => hq }, ?_⟩
  simp [Store.close, lookup_filter_ne]

/-- The numbers of the files that were there before have kept their contents. -/
theorem content_eq (hpending : Pending s h p text s') {id : Nat} (hid : id < s.next) :
    s'.content id = s.content id := by
  have := hpending.next_le
  exact hpending.contents id (by omega)

theorem numbered (hpending : Pending s h p text s') (hs : s.Numbered) : s'.Numbered := by
  intro q id hq
  have hnext := hpending.next_eq
  have hle := hpending.next_le
  by_cases hqp : q = p
  · rw [hqp, hpending.node] at hq
    cases hq
    omega
  · rw [hpending.others q hqp] at hq
    have := hs q id hq
    omega

/-- Taking the name away leaves the store as it was. -/
theorem remove (hpending : Pending s h p text s') (hs : s.Numbered) :
    ∃ s'', s'.remove h.name = .ok s'' ∧ Rewrites (fun _ _ => False) s s'' := by
  have hfind := find_eq_ok.mpr ⟨hpending.place, hpending.node⟩
  refine ⟨s'.dropNode p, by simp [Store.remove, hfind, blame, bind, Except.bind], ?_⟩
  -- Before, nothing was at the place, and the other places were never changed.
  have hnode : ∀ q, (s'.dropNode p).node? q = s.node? q := by
    intro q
    rw [node?_dropNode hpending.ne_nil]
    by_cases hqp : q = p
    · rw [if_pos hqp, hqp, hpending.fresh]
    · rw [if_neg hqp, hpending.others q hqp]
  refine .of_nodes hs (fun q id hq => ?_) hpending.workingDir
    (fun id hid => hpending.content_eq hid) fun q => .inl (hnode q)
  have hid := hs q id (hnode q ▸ hq)
  have hnext : (s'.dropNode p).next = h.id + 1 := hpending.next_eq
  have := hpending.next_le
  omega

/-- Renaming fails and changes nothing, or it puts the text at the new place and leaves all else as
it was. -/
theorem rename (hpending : Pending s h p text s') (hs : s.Numbered)
    (hne : ∀ q, s'.place path = .ok q → q ≠ p) :
    (∃ e, s'.rename h.name path = .error e) ∨
      ∃ s'', s'.rename h.name path = .ok s'' ∧
        (∃ q, s''.place path = .ok q ∧ s''.held q = some (.file text)) ∧
        Rewrites (fun q t => s''.place path = .ok q ∧ t = text) s s'' := by
  have hfind := find_eq_ok.mpr ⟨hpending.place, hpending.node⟩
  rcases hplace : s'.place path with e | q
  · exact .inl ⟨_, by simp [Store.rename, hfind, hplace, bind, Except.bind]; rfl⟩
  · have hqp : q ≠ p := hne q hplace
    by_cases hdirectory : s'.node? q = some .directory
    · exact .inl ⟨_, by simp [Store.rename, hfind, hplace, hdirectory, bind, Except.bind]; rfl⟩
    · have hq : q ≠ [] := fun hq => hdirectory (by simp [node?, hq])
      -- The file is at its new place, none is at the old one, and all else is as before.
      have hnode : ∀ r, ((s'.dropNode p).putNode q (.file h.id)).node? r =
          if r = q then some (.file h.id) else if r = p then none else s'.node? r := by
        intro r
        rw [node?_putNode hq, node?_dropNode hpending.ne_nil]
      -- The way to the new place goes through directories only, so it is still there.
      have hplace' : ((s'.dropNode p).putNode q (.file h.id)).place path = .ok q := by
        refine place_mono hplace rfl fun r hr => ?_
        rw [hnode, if_neg (fun hrq : r = q => hdirectory (hrq ▸ hr)), if_neg, hr]
        rintro rfl
        rw [hpending.node] at hr
        cases hr
      have hheld : ((s'.dropNode p).putNode q (.file h.id)).held q = some (.file text) :=
        held_eq_file.mpr ⟨h.id, by rw [hnode, if_pos rfl], hpending.text_eq⟩
      refine .inr ⟨_, ?_, ⟨q, hplace', hheld⟩, ?_⟩
      · exact rename_file hfind hplace hdirectory (Ne.symm hqp)
      · refine .of_nodes hs (fun r id hr => ?_) hpending.workingDir
          (fun id hid => hpending.content_eq hid) fun r => ?_
        · change id < s'.next
          rw [hnode] at hr
          split at hr
          · cases hr
            exact hpending.next_eq ▸ Nat.lt_succ_self _
          · split at hr
            · cases hr
            · exact hpending.numbered hs r id hr
        · -- Compared with the store before the temporary file, only the new place differs.
          by_cases hrq : r = q
          · subst hrq
            refine .inr (.inr ⟨?_, text, hheld, hplace', rfl⟩)
            rwa [← hpending.others r hqp]
          · refine .inl ?_
            rw [hnode, if_neg hrq]
            by_cases hrp : r = p
            · rw [if_pos hrp, hrp, hpending.fresh]
            · rw [if_neg hrp, hpending.others r hrp]

end Pending

end Store

end AdtCompiler
