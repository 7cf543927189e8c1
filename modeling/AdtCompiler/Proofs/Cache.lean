import AdtCompiler.Cache.Disk
import AdtCompiler.Proofs.FileUnits

/-!
# Entries of caches

An entry can be found only at places of a certain form, in a directory `gen` and under the
hexadecimal digits of its key. What else is written has other names, so that entries come about
only where a cache puts them. Opening and dropping a cache adds none.

## Contents

- `EntryPlace`: where the entry of a key can be
- `DiskCache.run_put`: what recording an entry changes
- `CacheEntry.isFresh_iff`: what a fresh entry says about the files
- `AddsNoEntry`: computations that put no entry anywhere
-/

namespace AdtCompiler

open Store (Rewrites Pending Settled)

/-! ## Hexadecimal digits -/

namespace Text

theorem hexValue?_hexDigit {n : Nat} (h : n < 16) : hexValue? (hexDigit n) = some n := by
  have hall : ∀ n < 16, hexValue? (hexDigit n) = some n := by decide
  exact hall n h

theorem hexDigit_ne_slash {n : Nat} (h : n < 16) : hexDigit n ≠ Path.slash := by
  have hall : ∀ n < 16, hexDigit n ≠ Path.slash := by decide
  exact hall n h

theorem hex_cons (b : UInt8) (t : Text) :
    hex (b :: t) = hexDigit (b.toNat / 16) :: hexDigit (b.toNat % 16) :: hex t := by
  have hb : b.toNat / 16 % 16 = b.toNat / 16 := Nat.mod_eq_of_lt (by have := b.toNat_lt; omega)
  simp [hex, hexFixed, hb]

/-- Bytes are read back from their digits. -/
theorem ofHex?_hex (t : Text) : ofHex? (hex t) = some t := by
  induction t with
  | nil => rfl
  | cons b t ih =>
    have hb := b.toNat_lt
    have hbyte : (b.toNat / 16 * 16 + b.toNat % 16).toUInt8 = b := by
      rw [Nat.div_add_mod']
      simp
    rw [hex_cons, ofHex?, hexValue?_hexDigit (by omega), hexValue?_hexDigit (by omega), ih]
    exact congrArg (fun c => some (c :: t)) hbyte

theorem hex_injective : Function.Injective hex := by
  intro s t h
  have hread : ofHex? (hex s) = ofHex? (hex t) := congrArg ofHex? h
  simpa [ofHex?_hex] using hread

theorem slash_not_mem_hex (t : Text) : Path.slash ∉ hex t := by
  induction t with
  | nil => simp [hex]
  | cons b t ih =>
    have hb := b.toNat_lt
    rw [hex_cons]
    simp only [List.mem_cons, not_or]
    exact ⟨(hexDigit_ne_slash (by omega)).symm, (hexDigit_ne_slash (by omega)).symm, ih⟩

end Text

/-! ## Places of entries -/

/-- A place at which a cache looks for the entry of a key. -/
def EntryPlace (key : Text) (q : Place) : Prop :=
  ∃ above, q = above ++ [("gen" : Text), key.hex ++ ".mp"]

namespace EntryPlace

variable {key key' : Text} {q : Place}

/-- The place of an entry tells its key. -/
theorem key_eq (h : EntryPlace key q) (h' : EntryPlace key' q) : key = key' := by
  obtain ⟨above, rfl⟩ := h
  obtain ⟨above', heq⟩ := h'
  have hend := List.append_inj_right' heq rfl
  simp only [List.cons.injEq, List.append_cancel_right_eq, and_true, true_and] at hend
  exact Text.hex_injective hend

theorem settled (h : EntryPlace key q) : Settled q := by
  obtain ⟨above, rfl⟩ := h
  refine ⟨above ++ [("gen" : Text)], key.hex ++ ".m", 112, ?_, by decide⟩
  rw [List.append_assoc, List.append_assoc]
  rfl

end EntryPlace

namespace DiskCache

variable {s : Store} {q : Place}

/-- Wherever the directory of a cache leads, an entry is in the directory `gen` there. -/
theorem target_pathFor (c : DiskCache) (key : Text) (s : Store) :
    s.target (c.pathFor key) = s.target c.dir ++ [("gen" : Text), key.hex ++ ".mp"] := by
  -- The path is joined from three pieces, but the last two have the same effect as one.
  have hjoin : c.pathFor key =
      Path.join [c.dir, ("gen" : Text) ++ Path.slash :: (key.hex ++ ".mp")] := by
    unfold pathFor Path.join
    by_cases hdir : c.dir.isEmpty
    · simp [hdir, Text.join]
      rfl
    · simp [hdir, Text.join]
  have hslash : Path.slash ∉ key.hex ++ ".mp" := by
    simp only [List.mem_append, not_or]
    exact ⟨Text.slash_not_mem_hex key, by decide⟩
  have hplain : Path.Plain (key.hex ++ ".mp") := by
    refine Path.plain_of_length hslash ?_
    have : (".mp" : Text).length = 3 := by decide
    rw [List.length_append]
    omega
  have hsplit : Text.splitOn Path.slash (("gen" : Text) ++ Path.slash :: (key.hex ++ ".mp")) =
      [("gen" : Text), key.hex ++ ".mp"] := by
    rw [Text.splitOn_append_sep, Text.splitOn_of_not_mem hslash,
      Text.splitOn_of_not_mem (by decide)]
    rfl
  have hnames : ∀ name ∈ Text.splitOn Path.slash
      (("gen" : Text) ++ Path.slash :: (key.hex ++ ".mp")), Path.Plain name := by
    rw [hsplit]
    simp only [List.forall_mem_cons]
    exact ⟨⟨by decide, by decide, by decide, by decide⟩, hplain,
      fun _ h => absurd h List.not_mem_nil⟩
  rw [hjoin, Path.join_eq_ofElements c.dir hnames, s.target_ofElements c.dir hnames, hsplit]

theorem place_pathFor (c : DiskCache) {key : Text} (h : s.place (c.pathFor key) = .ok q) :
    EntryPlace key q :=
  ⟨s.target c.dir, (Store.eq_target_of_place h).trans (c.target_pathFor key s)⟩

variable {w : World}

/-- Recording an entry changes nothing but the place of the entry, which then holds all of it. The
entry can be read if nothing failed. -/
theorem run_put (hs : w.store.Numbered) (c : DiskCache) (key : Text) (entry : CacheEntry) :
    ∃ failure w', (c.put key entry : StateM World _).run w = (failure, w') ∧
      Rewrites (fun q x => w'.store.place (c.pathFor key) = .ok q ∧ x = entry.pack)
        w.store w'.store ∧
      (failure = none → w'.store.load (c.pathFor key) = .ok entry.pack) := by
  obtain ⟨⟨made, w₁⟩, hmake⟩ :
      ∃ r, (makeDirs (Path.parent (c.pathFor key)) : StateM World _).run w = r := ⟨_, rfl⟩
  have hdirs := KeepsFiles.makeDirs (Path.parent (c.pathFor key)) w hs
  rw [hmake] at hdirs
  cases made with
  | error e =>
    exact ⟨some (.ofFile .creatingEntryDirectory e), w₁, run_bind hmake _, hdirs.mono nofun, nofun⟩
  | ok _ =>
    obtain ⟨created, w₂, hcreate, htemp⟩ :=
      w₁.run_createTemp (Path.parent (c.pathFor key)) "tmp-" (by decide)
    cases created with
    | error e =>
      have hw₂ : w₂ = w₁ := htemp
      subst hw₂
      exact ⟨some (.ofFile .creatingEntry e), w₂, (run_bind hmake _).trans (run_bind hcreate _),
        hdirs.mono nofun, nofun⟩
    | ok temp =>
      obtain ⟨hopened, p, hpending, hne⟩ := htemp
      obtain ⟨filled, happend, hpending, hopened⟩ := hpending.append hopened entry.pack
      obtain ⟨closed, hclose, hpending, hagain⟩ := hpending.close hopened
      -- The temporary file is not at the place of an entry, so the renaming moves it.
      have hapart : ∀ q, closed.place (c.pathFor key) = .ok q → q ≠ p :=
        fun q hq => hne q (c.place_pathFor hq).settled
      rcases hpending.rename hdirs.numbered hapart with
        ⟨e, hrename⟩ | ⟨store, hrename, hheld, hrewrites⟩
      · -- The file is given up: it cannot be closed again, but it can be removed.
        obtain ⟨store, hremove, hrewrites⟩ := hpending.remove hdirs.numbered
        refine ⟨some (.ofCause (.file e)), { w₂ with store }, (run_bind hmake _).trans ?_,
          (hdirs.trans hrewrites).mono nofun, nofun⟩
        refine (run_bind hcreate _).trans ?_
        refine (run_bind (World.run_change_ok happend) _).trans ?_
        refine (run_bind (World.run_change_ok hclose) _).trans ?_
        refine (run_bind (World.run_change_error hrename) _).trans ?_
        refine (run_bind (World.run_change_error hagain) _).trans ?_
        exact run_bind (World.run_change_ok hremove) _
      · refine ⟨none, { w₂ with store }, (run_bind hmake _).trans ?_,
          (hdirs.mono nofun).trans hrewrites, fun _ => Store.load_eq_ok.mpr hheld⟩
        refine (run_bind hcreate _).trans ?_
        refine (run_bind (World.run_change_ok happend) _).trans ?_
        refine (run_bind (World.run_change_ok hclose) _).trans ?_
        exact run_bind (World.run_change_ok hrename) _

/-- An entry that is found is one of the current schema in the file of its key. -/
theorem get_eq_some_iff {c : DiskCache} {key : Text} {e : CacheEntry} :
    ((c.get key : StateM World _).run w).1 = .ok (some e) ↔
      ∃ bytes, w.store.load (c.pathFor key) = .ok bytes ∧ CacheEntry.unpack? bytes = some e ∧
        e.schema = CacheEntry.currentSchema := by
  have hload : (Host.load (c.pathFor key) : StateM World _).run w =
      (w.store.load (c.pathFor key), w) := rfl
  rw [get, run_bind hload]
  rcases w.store.load (c.pathFor key) with error | bytes
  · -- A file that cannot be read is no entry, whatever the reason.
    dsimp only
    refine iff_of_false (fun h => ?_) (by simp)
    split at h
    · cases h
    · split at h <;> cases h
  · dsimp only
    rcases hunpack : CacheEntry.unpack? bytes with _ | entry
    · exact iff_of_false nofun (by simp [hunpack])
    · change (Except.ok (if entry.schema = CacheEntry.currentSchema then some entry else none) :
        Except Failure (Option CacheEntry)) = .ok (some e) ↔ _
      rw [Except.ok.injEq, Option.ite_none_right_eq_some]
      grind

end DiskCache

theorem run_fileDigest (w : World) (path : Text) :
    (fileDigest path : StateM World _).run w = ((w.store.load path).map Digest.sha256, w) := by
  have hload : (Host.load path : StateM World _).run w = (w.store.load path, w) := rfl
  rw [fileDigest, run_bind hload]
  rcases w.store.load path with _ | _ <;> rfl

namespace CacheEntry

variable {w : World}

/-- Files are intact if they can be read and their texts have the digests beside them. -/
theorem allIntact_iff {files : List (Text × Text)} :
    ((allIntact files : StateM World _).run w).1 = true ↔
      ∀ x ∈ files, ∃ t, w.store.load x.1 = .ok t ∧ Digest.sha256 t = x.2 := by
  induction files with
  | nil => exact iff_of_true rfl nofun
  | cons x rest ih =>
    obtain ⟨path, digest⟩ := x
    rw [allIntact, run_bind (run_fileDigest w path), List.forall_mem_cons]
    rcases w.store.load path with e | text
    · exact iff_of_false nofun (by simp)
    · simp only [Except.map, Except.ok.injEq, exists_eq_left']
      split
      · simp [*]
      · exact iff_of_false nofun (by simp [*])

/-- An entry is fresh if it has a digest for every file, and all files are intact. -/
theorem isFresh_iff {e : CacheEntry} : ((e.isFresh : StateM World _).run w).1 = true ↔
    e.outputList.length = e.digestList.length ∧ ∀ x ∈ e.outputList.zip e.digestList,
      ∃ t, w.store.load x.1 = .ok t ∧ Digest.sha256 t = x.2 := by
  unfold isFresh
  split
  · rename_i hlength
    exact iff_of_false nofun fun h => hlength h.1
  · rename_i hlength
    rw [allIntact_iff, and_iff_right (not_not.mp hlength)]

end CacheEntry

/-! ## Computations that only read -/

/-- A computation that leaves the files and directories as they are. -/
def KeepsStore {α : Type} (x : StateM World α) : Prop := ∀ w : World, (x.run w).2.store = w.store

namespace KeepsStore

theorem compositional : Compositional fun α => KeepsStore (α := α) where
  pure _ _ := rfl
  bind hx hg w := (hg _ _).trans (hx w)

theorem log (entry : LogEntry) : KeepsStore (Logger.log entry : StateM World Unit) := by
  intro w
  obtain ⟨w', hrun, hstore⟩ := w.run_log entry
  rw [hrun, hstore]

theorem get (c : DiskCache) (key : Text) : KeepsStore (c.get key) :=
  compositional.get (fun _ _ => rfl) c key

end KeepsStore

/-! ## Computations that add no entry -/

namespace Store

variable {s s' s'' : Store} {p q : Place} {path : Text}

/-- Entries may have been moved or removed, but there are no new ones. -/
structure NoNewEntries (s s' : Store) : Prop where
  numbered : s'.Numbered
  entry : ∀ key q x, EntryPlace key q → s'.held q = some (.file x) →
    ∃ q', EntryPlace key q' ∧ s.held q' = some (.file x)

namespace NoNewEntries

theorem refl (hs : s.Numbered) : NoNewEntries s s := ⟨hs, fun _ q _ hq hheld => ⟨q, hq, hheld⟩⟩

theorem trans (h : NoNewEntries s s') (h' : NoNewEntries s' s'') : NoNewEntries s s'' where
  numbered := h'.numbered
  entry key q x hq hheld := by
    obtain ⟨q', hq', hheld'⟩ := h'.entry key q x hq hheld
    exact h.entry key q' x hq' hheld'

theorem of_rewrites (h : Rewrites (fun _ _ => False) s s') : NoNewEntries s s' where
  numbered := h.numbered
  entry _ q x hq hheld := ⟨q, hq, (h.file q x hheld).resolve_right nofun⟩

/-- There are no new entries if files are only moved, and none to the place of an entry from
another one. -/
theorem of_nodes (hs : s.Numbered) (hcontents : s'.contents = s.contents) (hnext : s'.next = s.next)
    (hnode : ∀ q id, s'.node? q = some (.file id) → ∃ q', s.node? q' = some (.file id) ∧
      ∀ key, EntryPlace key q → EntryPlace key q') : NoNewEntries s s' where
  numbered q id hq := by
    obtain ⟨q', hq', -⟩ := hnode q id hq
    exact hnext ▸ hs q' id hq'
  entry key q x hq hheld := by
    obtain ⟨id, hid, rfl⟩ := held_eq_file.mp hheld
    obtain ⟨q', hq', hplace⟩ := hnode q id hid
    exact ⟨q', hplace key hq, held_eq_file.mpr ⟨id, hq', by rw [content, content, hcontents]⟩⟩

/-- Removing a tree adds no entry. -/
theorem of_removeTree (hs : s.Numbered) (h : s.removeTree path = .ok s') : NoNewEntries s s' := by
  rcases removeTree_cases h with rfl | ⟨-, -, hcontents, hnext, -, -⟩
  · exact .refl hs
  · refine .of_nodes hs hcontents hnext fun q id hq => ⟨q, ?_, fun _ hplace => hplace⟩
    exact node?_of_removeTree h hq

/-- The last name of a place ends with a digit. -/
def EndsWithDigit (q : Place) : Prop :=
  ∃ above front last, q = above ++ [front ++ [last]] ∧ Text.isDigit last = true

theorem EndsWithDigit.not_settled (h : EndsWithDigit q) : ¬ Settled q := by
  rintro ⟨above', front', last', heq, hlast'⟩
  obtain ⟨above, front, last, rfl, hlast⟩ := h
  have hname : front ++ [last] = front' ++ [last'] := by
    simpa using List.append_inj_right' heq rfl
  have hbyte : last = last' := by simpa using List.append_inj_right' hname rfl
  rw [← hbyte, hlast] at hlast'
  cases hlast'

/-- An entry below a place that ends with a digit is two names below it at least. -/
theorem EndsWithDigit.entryPlace {key : Text} {rest : Place} (hq : EndsWithDigit q)
    (h : EntryPlace key (q ++ rest)) (p : Place) : EntryPlace key (p ++ rest) := by
  rcases List.eq_nil_or_concat rest with rfl | ⟨rest, y, rfl⟩
  · rw [List.append_nil] at h
    exact absurd h.settled hq.not_settled
  · obtain ⟨above, habove⟩ := h
    rcases List.eq_nil_or_concat rest with rfl | ⟨rest, x, rfl⟩
    · -- The entry would be right below, in a directory `gen`, and that is no digit at the end.
      have hgen : q = above ++ [("gen" : Text)] := by
        have hsplit : q ++ [y] = (above ++ [("gen" : Text)]) ++ [key.hex ++ ".mp"] := by
          simpa using habove
        exact List.append_inj_left' hsplit rfl
      refine absurd ⟨above, "ge", 110, ?_, by decide⟩ hq.not_settled
      rw [hgen]
      rfl
    · -- Both names of the entry are below the place, which therefore does not matter.
      have hend : [x, y] = [("gen" : Text), key.hex ++ ".mp"] := by
        have hsplit : (q ++ rest) ++ [x, y] = above ++ [("gen" : Text), key.hex ++ ".mp"] := by
          simpa using habove
        exact List.append_inj_right' hsplit rfl
      exact ⟨p ++ rest, by simp [← hend]⟩

/-- Renaming to a name that ends with a digit adds no entry. -/
theorem of_rename {old new : Text} (hs : s.Numbered)
    (hnew : ∀ q, s.place new = .ok q → EndsWithDigit q) (h : s.rename old new = .ok s') :
    NoNewEntries s s' := by
  obtain ⟨p, q, node, hfind, hplace, rfl | ⟨hdirectory, id, rfl, rfl⟩ | ⟨-, hbelow, rfl⟩⟩ :=
    rename_cases h
  · exact .refl hs
  · -- A file is moved. Its new place is not that of an entry.
    have hp : s.node? p = some (.file id) := (find_eq_ok.mp hfind).2
    have hpnil : p ≠ [] := fun hnil => by simp [node?, hnil] at hp
    have hqnil : q ≠ [] := fun hnil => hdirectory (by simp [node?, hnil])
    refine .of_nodes hs rfl rfl fun r id' hr => ?_
    rw [node?_putNode hqnil, node?_dropNode hpnil] at hr
    split at hr
    · rename_i hrq
      cases hr
      refine ⟨p, hp, fun key hkey => ?_⟩
      exact absurd (hrq ▸ hkey).settled (hnew q hplace).not_settled
    · split at hr
      · cases hr
      · exact ⟨r, hr, fun _ hkey => hkey⟩
  · -- A directory is moved with all that is below it.
    refine .of_nodes hs rfl rfl fun r id hr => ?_
    have hrnil : r ≠ [] := fun hnil => by simp [node?, hnil] at hr
    have hpnil : p ≠ [] := fun hnil => hbelow (by simp [hnil])
    obtain ⟨r', hr', rfl | ⟨rest, rfl, rfl⟩⟩ := exists_node?_of_moveTree hpnil hrnil hr
    · exact ⟨r', hr', fun _ hkey => hkey⟩
    · exact ⟨p ++ rest, hr', fun _ hkey => (hnew q hplace).entryPlace hkey p⟩

end NoNewEntries

end Store

/-- A computation after which there are no new entries. -/
def AddsNoEntry {α : Type} (x : StateM World α) : Prop :=
  ∀ w : World, w.store.Numbered → Store.NoNewEntries w.store (x.run w).2.store

theorem KeepsStore.addsNoEntry {α : Type} {x : StateM World α} (h : KeepsStore x) :
    AddsNoEntry x := by
  intro w hs
  rw [h w]
  exact .refl hs

theorem KeepsFiles.addsNoEntry {α : Type} {x : StateM World α} (h : KeepsFiles x) :
    AddsNoEntry x := fun w hs => .of_rewrites (h w hs)

namespace AddsNoEntry

theorem compositional : Compositional fun α => AddsNoEntry (α := α) where
  pure a := (KeepsStore.compositional.pure a).addsNoEntry
  bind hx hg w hs := by
    have hfirst := hx w hs
    exact hfirst.trans (hg _ _ hfirst.numbered)

/-- Opening a cache adds no entry. -/
theorem open? (dir : Text) : AddsNoEntry (DiskCache.open? dir) :=
  compositional.open? (fun _ => KeepsStore.addsNoEntry fun _ => rfl)
    (fun dir => (KeepsFiles.makeDirs dir).addsNoEntry) dir

theorem change {f : Store → Except FileError Store}
    (hf : ∀ s s', s.Numbered → f s = .ok s' → Store.NoNewEntries s s') :
    AddsNoEntry (World.change f) := by
  intro w hs
  rcases h : f w.store with e | store
  · rw [World.run_change_error h]
    exact .refl hs
  · rw [World.run_change_ok h]
    exact hf _ _ hs h

theorem rename (old front : Text) :
    AddsNoEntry (Host.rename old (front ++ ".old-" ++ "00000000000000") : StateM World _) := by
  refine change fun s s' hs h => .of_rename hs (fun q hq => ?_) h
  rw [List.append_assoc] at hq
  obtain ⟨above, name, rfl⟩ := Store.place_append (by decide) (by decide) hq
  exact ⟨above, name ++ ".old-0000000000000", 48, by rw [List.append_assoc]; rfl, by decide⟩

theorem removeTree (path : Text) : AddsNoEntry (Host.removeTree path : StateM World _) :=
  change fun _ _ hs h => .of_removeTree hs h

/-- Dropping a cache adds no entry: the name that its directory gets before it is removed is not
the name of an entry, nor of a directory of entries. -/
theorem dropAll (c : DiskCache) : AddsNoEntry c.dropAll := by
  intro w hs
  have htime : (Host.timeStamp : StateM World _).run w = (("00000000000000" : Text), w) := rfl
  rw [DiskCache.dropAll, run_bind htime]
  -- the name is known only once the time is, so this is no composition of operations of the kind
  refine compositional.bind (rename c.dir c.dir) (fun renamed => ?_) w hs
  cases renamed with
  | error e =>
    dsimp only
    split <;> exact compositional.pure _
  | ok _ =>
    refine compositional.bind (removeTree _) fun removed => ?_
    cases removed <;> exact compositional.pure _

end AddsNoEntry

end AdtCompiler
