import AdtCompiler.Proofs.SortedOrder
import AdtCompiler.Proofs.Tameness

/-!
# Which sources are collected

The files below a directory are found by listing it and going into its directories. Which files
these are depends on the nodes at and below the directory alone. New directories without files make
no difference, so two stores that have the same files there have the same sources.

## Contents

- `Store.entries_eq_ok`: what a directory lists
- `Store.AgreeBelow`: stores with the same files at and below a place
- `mem_filesIn`: what is found below a directory
- `nodup_filesIn`: nothing is found twice
- `collectSources_congr`: the same sources are collected from stores that agree
-/

namespace AdtCompiler

namespace Text

/-! ## Names in a listing -/

theorem nodup_eraseDups (names : List Text) : names.eraseDups.Nodup := by
  induction hn : names.length using Nat.strongRecOn generalizing names with
  | _ n ih =>
    cases names with
    | nil => simp
    | cons name names =>
      rw [List.eraseDups_cons, List.nodup_cons]
      refine ⟨by simp, ih _ ?_ _ rfl⟩
      rw [← hn]
      exact Nat.lt_succ_of_le (List.length_filter_le _ _)

end Text

namespace Store

variable {s s' s'' : Store} {p q top : Place} {path dir name : Text}

/-! ## Listings -/

/-- A directory lists the names that have a node in it, and tells what they are. -/
theorem entries_eq_ok {listed : List (Text × FileKind)} (h : s.entries path = .ok listed) :
    ∃ p, s.place path = .ok p ∧ s.node? p = some .directory ∧
      listed.Pairwise (fun a b => a.1 ≠ b.1) ∧ ∀ name kind, (name, kind) ∈ listed ↔
        ∃ node, s.node? (p ++ [name]) = some node ∧ node.kind = kind := by
  rcases hfind : s.find path with e | ⟨p, _ | id⟩
  · simp [entries, hfind, blame, bind, Except.bind] at h
  · obtain ⟨hplace, hnode⟩ := find_eq_ok.mp hfind
    simp only [entries, hfind, blame, bind, Except.bind, Except.ok.injEq] at h
    subst h
    refine ⟨p, hplace, hnode, ?_, fun name kind => ?_⟩
    · -- the names are sorted without repetitions, and each is listed with one kind
      have hnodup (names : List Text) : (names.eraseDups.mergeSort Text.le).Nodup :=
        (List.mergeSort_perm _ _).nodup_iff.mpr (Text.nodup_eraseDups names)
      refine List.pairwise_filterMap.mpr ((hnodup _).imp ?_)
      intro name other hne a ha b hb
      obtain ⟨_, -, rfl⟩ := Option.map_eq_some_iff.mp ha
      obtain ⟨_, -, rfl⟩ := Option.map_eq_some_iff.mp hb
      exact hne
    simp only [List.mem_filterMap, List.mem_mergeSort, List.mem_eraseDups, Option.map_eq_some_iff,
      Prod.mk.injEq]
    constructor
    · rintro ⟨other, -, node, hother, rfl, rfl⟩
      exact ⟨node, hother, rfl⟩
    · -- a node in the directory is one of those below it, so its name is among the names
      rintro ⟨node, hname, rfl⟩
      refine ⟨name, ⟨(p ++ [name], node), ?_, by simp⟩, node, hname, rfl, rfl⟩
      rw [node?_of_ne_nil (by simp)] at hname
      simp [below, mem_of_lookup hname]
  · simp [entries, hfind, blame, bind, Except.bind] at h

/-- The names in a directory that are in order already are listed as they are. -/
theorem entries_of_sorted {names : List Text} (hfind : s.find path = .ok (p, .directory))
    (hnames : ((s.below p).filterMap fun x =>
      if x.1.length = p.length + 1 then x.1.getLast? else none).eraseDups = names)
    (hsorted : names.Pairwise fun name other => Text.le name other = true) :
    s.entries path = .ok (names.filterMap fun name =>
      (s.node? (p ++ [name])).map fun node => (name, node.kind)) := by
  rw [← List.mergeSort_of_pairwise hsorted, ← hnames, entries, hfind]
  rfl

/-- A plain name in a directory leads down from where the directory is. -/
theorem target_join (s : Store) (dir : Text) (h : Path.Plain name) :
    s.target (Path.join [dir, name]) = s.target dir ++ [name] := by
  have hsplit : name.splitOn Path.slash = [name] := Text.splitOn_of_not_mem h.not_mem
  have hplain : ∀ n ∈ name.splitOn Path.slash, Path.Plain n := by
    rw [hsplit]
    exact List.forall_mem_singleton.mpr h
  rw [Path.join_eq_ofElements dir hplain, s.target_ofElements dir hplain, hsplit]

/-! ## Agreement -/

/-- Every node is in a directory. -/
def Closed (s : Store) : Prop :=
  ∀ q node, s.node? q = some node → ∀ above, above <+: q → above ≠ q →
    s.node? above = some .directory

/-- At and below a place there are the same files, and no directory is missing. -/
structure AgreeBelow (top : Place) (s s' : Store) : Prop where
  workingDir : s'.workingDir = s.workingDir
  directory : ∀ q, top <+: q → s.node? q = some .directory → s'.node? q = some .directory
  file : ∀ q, top <+: q → ∀ t, s'.held q = some (.file t) ↔ s.held q = some (.file t)

namespace AgreeBelow

theorem refl (top : Place) (s : Store) : AgreeBelow top s s :=
  ⟨rfl, fun _ _ hq => hq, fun _ _ _ => .rfl⟩

theorem trans (h : AgreeBelow top s s') (h' : AgreeBelow top s' s'') : AgreeBelow top s s'' where
  workingDir := h'.workingDir.trans h.workingDir
  directory q hq hnode := h'.directory q hq (h.directory q hq hnode)
  file q hq t := (h'.file q hq t).trans (h.file q hq t)

/-- What is written elsewhere makes no difference. -/
theorem of_rewrites {new : Place → Text → Prop} (h : Rewrites new s s')
    (hnew : ∀ q, top <+: q → ∀ t, ¬new q t) : AgreeBelow top s s' where
  workingDir := h.workingDir
  directory q _ hnode := h.directory q hnode
  file q hq t := by
    constructor
    · intro hheld
      exact (h.file q t hheld).resolve_right (hnew q hq t)
    · intro hheld
      exact h.held_of_not_new hheld (hnew q hq)

/-- Files that are there in one store are there in the other. -/
theorem regular (h : AgreeBelow top s s') (hq : top <+: q) :
    (∃ node, s'.node? q = some node ∧ node.kind = .regular) ↔
      ∃ node, s.node? q = some node ∧ node.kind = .regular := by
  have hheld (s : Store) : (∃ node, s.node? q = some node ∧ node.kind = .regular) ↔
      ∃ t, s.held q = some (.file t) := by
    simp only [held_eq_file]
    constructor
    · rintro ⟨_ | id, hnode, hkind⟩
      · cases hkind
      · exact ⟨_, id, hnode, rfl⟩
    · rintro ⟨t, id, hnode, -⟩
      exact ⟨.file id, hnode, rfl⟩
  rw [hheld, hheld]
  exact exists_congr (h.file q hq)

/-- What can be read in two stores that agree is the same. -/
theorem load_eq {t t' : Text} (h : AgreeBelow top s s') (htop : top <+: s.target path)
    (hload : s.load path = .ok t) (hload' : s'.load path = .ok t') : t' = t := by
  obtain ⟨q, hq, hheld⟩ := load_eq_ok.mp hload
  obtain ⟨q', hq', hheld'⟩ := load_eq_ok.mp hload'
  rw [eq_target_of_place hq', target_congr h.workingDir, h.file _ htop,
    ← eq_target_of_place hq, hheld] at hheld'
  cases hheld'
  rfl

end AgreeBelow

end Store

/-! ## Files below a directory -/

/-- The files below a directory that can be found within a number of levels. -/
def filesIn (w : World) (fuel : Nat) (dir : Text) : Except FileError (List Text) :=
  ((filesWithin fuel dir : StateM World _).run w).1

/-- What is found at a name that a directory lists: the file itself, or the files below it. -/
def filesAt (w : World) (fuel : Nat) (dir : Text) : Text × FileKind → List Text
  | (name, .regular) => [Path.join [dir, name]]
  | (name, .directory) => (filesIn w fuel (Path.join [dir, name])).toOption.getD []

/-- What is found when names of a directory are gone through, one after another. -/
theorem run_foldlM_names {w : World} (fuel : Nat) (dir : Text) {names : List (Text × FileKind)}
    {step : Except FileError (List Text) → Text × FileKind →
      StateM World (Except FileError (List Text))}
    (herror : ∀ e entry, (step (.error e) entry).run w = (.error e, w))
    (hregular : ∀ found name, (step (.ok found) (name, .regular)).run w =
      (.ok (found ++ [Path.join [dir, name]]), w))
    (hdirectory : ∀ found name, (step (.ok found) (name, .directory)).run w =
      ((filesIn w fuel (Path.join [dir, name])).map (found ++ ·), w))
    {found files : List Text} :
    ((names.foldlM step (.ok found)).run w).1 = .ok files ↔
      (∀ name, (name, .directory) ∈ names →
        ∃ more, filesIn w fuel (Path.join [dir, name]) = .ok more) ∧
      files = found ++ names.flatMap (filesAt w fuel dir) := by
  -- once a directory cannot be listed, nothing after it makes up for that
  have hstuck : ∀ (names : List (Text × FileKind)) e,
      ((names.foldlM step (.error e)).run w).1 = .error e := by
    intro names e
    induction names with
    | nil => rfl
    | cons entry names ih => rw [List.foldlM_cons, run_bind (herror e entry), ih]
  induction names generalizing found with
  | nil =>
    rw [List.flatMap_nil, List.append_nil]
    refine ⟨fun h => ?_, fun h => h.2 ▸ rfl⟩
    cases h
    simp
  | cons entry names ih =>
    obtain ⟨name, kind⟩ := entry
    rw [List.foldlM_cons]
    cases kind with
    | regular =>
      rw [run_bind (hregular found name)]
      refine ih.trans ?_
      simp [filesAt]
    | directory =>
      rw [run_bind (hdirectory found name)]
      cases hmore : filesIn w fuel (Path.join [dir, name]) with
      | error e =>
        refine iff_of_false (fun h => ?_) fun h => ?_
        · cases (hstuck names e).symm.trans h
        · obtain ⟨more, hlisted⟩ := h.1 name List.mem_cons_self
          cases hmore.symm.trans hlisted
      | ok more =>
        have hfiles : filesAt w fuel dir (name, .directory) = more := by
          rw [filesAt, hmore]
          rfl
        refine ih.trans ?_
        rw [List.flatMap_cons, hfiles, List.append_assoc]
        refine and_congr_left fun _ => ⟨fun h other hother => ?_, fun h other hother => ?_⟩
        · rcases List.mem_cons.mp hother with heq | hother
          · cases heq
            exact ⟨more, hmore⟩
          · exact h other hother
        · exact h other (List.mem_cons_of_mem _ hother)

/-- What is found below a directory is what is found at the names that it lists. -/
theorem filesIn_eq_ok {w : World} {fuel : Nat} {dir : Text} {files : List Text} :
    filesIn w (fuel + 1) dir = .ok files ↔
      ∃ names, w.store.entries dir = .ok names ∧
        (∀ name, (name, .directory) ∈ names →
          ∃ more, filesIn w fuel (Path.join [dir, name]) = .ok more) ∧
        files = names.flatMap (filesAt w fuel dir) := by
  have hentries : (Host.entries dir : StateM World _).run w = (w.store.entries dir, w) := rfl
  rw [filesIn, filesWithin, run_bind hentries]
  cases hnames : w.store.entries dir with
  | error e => simp
  | ok names =>
    -- the walk over the names is that of `run_foldlM_names`, with the files of a directory
    refine Iff.trans (run_foldlM_names fuel dir ?_ ?_ ?_) ?_
    · exact fun e entry => rfl
    · exact fun found name => rfl
    · intro found name
      obtain ⟨⟨more, w'⟩, hmore⟩ : ∃ r,
          (filesWithin fuel (Path.join [dir, name]) : StateM World _).run w = r := ⟨_, rfl⟩
      have hlooks := OnlyLooks.filesWithin fuel (Path.join [dir, name]) w
      rw [hmore] at hlooks
      cases hlooks
      refine (run_bind hmore _).trans ?_
      rw [filesIn, hmore]
      cases more <;> rfl
    · simp

/-- The files that are found: those that the directory lists, and those found in the directories
that it lists. -/
theorem mem_filesIn {w : World} {fuel : Nat} {dir : Text} {files : List Text}
    (h : filesIn w (fuel + 1) dir = .ok files) :
    ∃ names, w.store.entries dir = .ok names ∧
      (∀ name, (name, .directory) ∈ names →
        ∃ more, filesIn w fuel (Path.join [dir, name]) = .ok more) ∧
      ∀ f, f ∈ files ↔ (∃ name, (name, .regular) ∈ names ∧ f = Path.join [dir, name]) ∨
        ∃ name more, (name, .directory) ∈ names ∧
          filesIn w fuel (Path.join [dir, name]) = .ok more ∧ f ∈ more := by
  obtain ⟨names, hnames, hdirs, rfl⟩ := filesIn_eq_ok.mp h
  refine ⟨names, hnames, hdirs, fun f => ?_⟩
  rw [List.mem_flatMap]
  constructor
  · rintro ⟨⟨name, kind⟩, hname, hf⟩
    cases kind with
    | regular => exact .inl ⟨name, hname, List.mem_singleton.mp hf⟩
    | directory =>
      obtain ⟨more, hmore⟩ := hdirs name hname
      refine .inr ⟨name, more, hname, hmore, ?_⟩
      simpa [filesAt, hmore, Except.toOption] using hf
  · rintro (⟨name, hname, rfl⟩ | ⟨name, more, hname, hmore, hf⟩)
    · exact ⟨_, hname, List.mem_singleton_self _⟩
    · refine ⟨_, hname, ?_⟩
      simpa [filesAt, hmore, Except.toOption] using hf

section Walks

variable {w w' : World} {fuel : Nat} {dir f : Text} {files files' : List Text} {top : Place}

/-- What a directory lists, by the place to which its path leads. -/
theorem Store.entries_target {s : Store} {names : List (Text × FileKind)}
    (h : s.entries dir = .ok names) :
    ∀ name kind, (name, kind) ∈ names ↔
      ∃ node, s.node? (s.target dir ++ [name]) = some node ∧ node.kind = kind := by
  obtain ⟨p, hplace, -, -, hnames⟩ := Store.entries_eq_ok h
  rwa [Store.eq_target_of_place hplace] at hnames

theorem Store.Tidy.target_join_of_node {s : Store} (hs : s.Tidy) {name : Text} {node : Node}
    (h : s.node? (s.target dir ++ [name]) = some node) :
    s.target (Path.join [dir, name]) = s.target dir ++ [name] :=
  s.target_join dir (hs.names _ node h name (by simp))

/-- A file that is found below a directory is there. -/
theorem exists_held_of_mem_filesIn (hs : w.store.Tidy) (h : filesIn w fuel dir = .ok files)
    (hf : f ∈ files) : ∃ rest, rest ≠ [] ∧ w.store.target f = w.store.target dir ++ rest ∧
      ∃ t, w.store.held (w.store.target f) = some (.file t) := by
  induction fuel generalizing dir files with
  | zero =>
    cases h
    cases hf
  | succ fuel ih =>
    obtain ⟨names, hentries, -, hfiles⟩ := mem_filesIn h
    have hnames := Store.entries_target hentries
    rcases (hfiles f).mp hf with ⟨name, hname, rfl⟩ | ⟨name, more, hname, hmore, hf⟩
    · obtain ⟨_ | id, hnode, hkind⟩ := (hnames name .regular).mp hname
      · cases hkind
      · have htarget := hs.target_join_of_node hnode
        refine ⟨[name], by simp, htarget, w.store.content id, ?_⟩
        rw [htarget]
        exact Store.held_eq_file.mpr ⟨id, hnode, rfl⟩
    · -- a file in a directory that is listed is below it by one name more
      obtain ⟨node, hnode, -⟩ := (hnames name .directory).mp hname
      obtain ⟨rest, -, htarget, hheld⟩ := ih hmore hf
      rw [hs.target_join_of_node hnode, List.append_assoc] at htarget
      exact ⟨[name] ++ rest, by simp, htarget, hheld⟩

/-- No file is found twice: what is found at different names is at different places. -/
theorem nodup_filesIn (hs : w.store.Tidy) (h : filesIn w fuel dir = .ok files) : files.Nodup := by
  induction fuel generalizing dir files with
  | zero =>
    cases h
    exact List.nodup_nil
  | succ fuel ih =>
    obtain ⟨names, hentries, hdirs, rfl⟩ := filesIn_eq_ok.mp h
    have hnames := Store.entries_target hentries
    -- what is found at a name is at or below the place of that name
    have hat : ∀ entry ∈ names, ∀ f ∈ filesAt w fuel dir entry,
        w.store.target dir ++ [entry.1] <+: w.store.target f := by
      rintro ⟨name, kind⟩ hname f hf
      obtain ⟨node, hnode, -⟩ := (hnames name kind).mp hname
      have hjoin := hs.target_join_of_node hnode
      cases kind with
      | regular =>
        rw [List.mem_singleton.mp hf]
        exact hjoin ▸ List.prefix_refl _
      | directory =>
        obtain ⟨more, hmore⟩ := hdirs name hname
        simp only [filesAt, hmore, Except.toOption, Option.getD_some] at hf
        obtain ⟨rest, -, htarget, -⟩ := exists_held_of_mem_filesIn hs hmore hf
        rw [htarget, hjoin]
        exact List.prefix_append _ rest
    refine List.nodup_flatMap.mpr ⟨?_, ?_⟩
    · rintro ⟨name, kind⟩ hname
      cases kind with
      | regular => exact List.nodup_singleton _
      | directory =>
        obtain ⟨more, hmore⟩ := hdirs name hname
        simpa [filesAt, hmore, Except.toOption] using ih hmore
    · -- two names of one directory are equally far down, so nothing is at or below both
      obtain ⟨p, -, -, hdistinct, -⟩ := Store.entries_eq_ok hentries
      refine hdistinct.imp_of_mem fun ha hb hne f hfa hfb => hne ?_
      have hsame := List.prefix_of_prefix_length_le (hat _ ha f hfa) (hat _ hb f hfb) (by simp)
      simpa using hsame

/-- Files that are found in a store are found in one that agrees with it. -/
theorem mem_filesIn_of_agreeBelow (hagree : w.store.AgreeBelow top w'.store) (hs : w.store.Tidy)
    (h : filesIn w fuel dir = .ok files) (h' : filesIn w' fuel dir = .ok files')
    (htop : top <+: w.store.target dir) (hf : f ∈ files) : f ∈ files' := by
  induction fuel generalizing dir files files' with
  | zero =>
    cases h
    cases hf
  | succ fuel ih =>
    obtain ⟨names, hentries, -, hfiles⟩ := mem_filesIn h
    obtain ⟨names', hentries', hdirs', hfiles'⟩ := mem_filesIn h'
    have hnames := Store.entries_target hentries
    have hnames' := Store.entries_target hentries'
    rw [Store.target_congr hagree.workingDir] at hnames'
    have hbelow (name : Text) : top <+: w.store.target dir ++ [name] :=
      htop.trans (List.prefix_append _ _)
    rw [hfiles' f]
    rcases (hfiles f).mp hf with ⟨name, hname, rfl⟩ | ⟨name, more, hname, hmore, hf⟩
    · refine .inl ⟨name, ?_, rfl⟩
      rw [hnames', hagree.regular (hbelow name), ← hnames]
      exact hname
    · -- the directory is there in both stores, and so are the files found in it
      obtain ⟨_ | id, hnode, hkind⟩ := (hnames name .directory).mp hname
      · have hnode' := hagree.directory _ (hbelow name) hnode
        have hname' := (hnames' name .directory).mpr ⟨_, hnode', rfl⟩
        obtain ⟨more', hmore'⟩ := hdirs' name hname'
        refine .inr ⟨name, more', hname', hmore', ih hmore hmore' ?_ hf⟩
        rw [hs.target_join_of_node hnode]
        exact hbelow name
      · cases hkind

/-- Files that are found in a store were found in one that agrees with it: a new directory does not
matter, because it has no file. -/
theorem mem_filesIn_of_agreeBelow' (hagree : w.store.AgreeBelow top w'.store)
    (hclosed : w.store.Closed) (hs' : w'.store.Tidy) (h : filesIn w fuel dir = .ok files)
    (h' : filesIn w' fuel dir = .ok files') (htop : top <+: w.store.target dir)
    (hf : f ∈ files') : f ∈ files := by
  induction fuel generalizing dir files files' with
  | zero =>
    cases h'
    cases hf
  | succ fuel ih =>
    obtain ⟨names, hentries, hdirs, hfiles⟩ := mem_filesIn h
    obtain ⟨names', hentries', -, hfiles'⟩ := mem_filesIn h'
    have hnames := Store.entries_target hentries
    have hnames' := Store.entries_target hentries'
    have htarget (path : Text) := Store.target_congr hagree.workingDir path
    have hbelow (name : Text) : top <+: w.store.target dir ++ [name] :=
      htop.trans (List.prefix_append _ _)
    rw [hfiles f]
    rcases (hfiles' f).mp hf with ⟨name, hname, rfl⟩ | ⟨name, more, hname, hmore, hf⟩
    · refine .inl ⟨name, ?_, rfl⟩
      rw [hnames, ← hagree.regular (hbelow name), ← htarget dir, ← hnames']
      exact hname
    · obtain ⟨node, hnode, -⟩ := (hnames' name .directory).mp hname
      have hjoin := hs'.target_join_of_node hnode
      -- the file that is found in the directory was there, and so was the directory
      obtain ⟨rest, hrest, hplace, t, hheld⟩ := exists_held_of_mem_filesIn hs' hmore hf
      rw [hplace, hjoin, htarget] at hheld
      rw [hagree.file _ ((hbelow name).trans (List.prefix_append _ _))] at hheld
      obtain ⟨id, hfile, -⟩ := Store.held_eq_file.mp hheld
      have hdirectory := hclosed _ _ hfile _ (List.prefix_append _ rest) (by simpa using hrest)
      have hname' := (hnames name .directory).mpr ⟨_, hdirectory, rfl⟩
      obtain ⟨more', hmore'⟩ := hdirs name hname'
      refine .inr ⟨name, more', hname', hmore', ih hmore' hmore ?_ hf⟩
      rw [← htarget, hjoin, htarget]
      exact hbelow name

end Walks

/-! ## Sources -/

/-- The sources that a directory stands for are the files below it that have the extension. -/
theorem collectSources_of_directory {w : World} {path : Text} {p : Place} {files : List Text}
    (hfind : w.store.find path = .ok (p, .directory))
    (hfiles : filesIn w maxPath path = .ok files) (extension : Text) :
    ((collectSources path extension : StateM World _).run w).1 =
      .ok ((files.filter fun f => (if extension.isEmpty then Options.defaultExtension
        else extension).isSuffixOf (Path.base f)).mergeSort Text.le) := by
  have hstatus : (Host.status path : StateM World _).run w = (w.store.status path, w) := rfl
  have hdirectory : w.store.status path = .ok .directory := by
    simp [Store.status, hfind, Store.blame, bind, Except.bind]
  obtain ⟨⟨found, w'⟩, hfound⟩ : ∃ r, (filesBelow path : StateM World _).run w = r := ⟨_, rfl⟩
  obtain rfl : found = .ok files := (congrArg Prod.fst hfound).symm.trans hfiles
  rw [collectSources, run_bind hstatus, hdirectory]
  exact congrArg Prod.fst (run_bind hfound _)

/-- The sources that a path stands for are the path itself, if it is a file, or files below it. -/
theorem collectSources_eq_ok {w : World} {path extension : Text} {paths : List Text}
    (h : ((collectSources path extension : StateM World _).run w).1 = .ok paths) :
    (∃ t, w.store.held (w.store.target path) = some (.file t)) ∧ paths = [path] ∨
      w.store.node? (w.store.target path) = some .directory ∧
        ∃ files, filesIn w maxPath path = .ok files ∧
          paths = (files.filter fun f => (if extension.isEmpty then Options.defaultExtension
            else extension).isSuffixOf (Path.base f)).mergeSort Text.le := by
  have hstatus : (Host.status path : StateM World _).run w = (w.store.status path, w) := rfl
  rw [collectSources, run_bind hstatus] at h
  -- by what is at the path: nothing, a directory or a file
  rcases hfind : w.store.find path with e | ⟨p, _ | id⟩
  · have hnone : w.store.status path = .error ⟨.stat, [path], e⟩ := by
      simp [Store.status, hfind, Store.blame, bind, Except.bind]
    rw [hnone] at h
    cases h
  · obtain ⟨hplace, hnode⟩ := Store.find_eq_ok.mp hfind
    have hsome : w.store.status path = .ok .directory := by
      simp [Store.status, hfind, Store.blame, bind, Except.bind]
    rw [hsome] at h
    refine .inr ⟨Store.eq_target_of_place hplace ▸ hnode, ?_⟩
    obtain ⟨⟨files, w'⟩, hfiles⟩ : ∃ r, (filesBelow path : StateM World _).run w = r := ⟨_, rfl⟩
    rw [run_bind hfiles] at h
    cases files with
    | error e => cases h
    | ok files =>
      cases h
      exact ⟨files, congrArg Prod.fst hfiles, rfl⟩
  · obtain ⟨hplace, hnode⟩ := Store.find_eq_ok.mp hfind
    have hsome : w.store.status path = .ok .regular := by
      simp [Store.status, hfind, Store.blame, bind, Except.bind]
    rw [hsome] at h
    cases h
    refine .inl ⟨⟨w.store.content id, ?_⟩, rfl⟩
    rw [← Store.eq_target_of_place hplace]
    exact Store.held_eq_file.mpr ⟨id, hnode, rfl⟩

section Sources

variable {w w' : World} {path extension : Text} {paths paths' : List Text}

/-- Sources are at or below the place of the path that stands for them. -/
theorem prefix_target_of_mem_collectSources (hs : w.store.Tidy)
    (h : ((collectSources path extension : StateM World _).run w).1 = .ok paths) {f : Text}
    (hf : f ∈ paths) : w.store.target path <+: w.store.target f := by
  rcases collectSources_eq_ok h with ⟨-, rfl⟩ | ⟨-, files, hfiles, rfl⟩
  · cases List.mem_singleton.mp hf
    exact List.prefix_refl _
  · rw [List.mem_mergeSort] at hf
    obtain ⟨rest, -, htarget, -⟩ :=
      exists_held_of_mem_filesIn hs hfiles (List.mem_of_mem_filter hf)
    rw [htarget]
    exact List.prefix_append _ rest

/-- The same sources are collected from stores that agree. -/
theorem collectSources_congr (hagree : w.store.AgreeBelow (w.store.target path) w'.store)
    (hclosed : w.store.Closed) (hs : w.store.Tidy) (hs' : w'.store.Tidy)
    (h : ((collectSources path extension : StateM World _).run w).1 = .ok paths)
    (h' : ((collectSources path extension : StateM World _).run w').1 = .ok paths') :
    paths' = paths := by
  have htop := List.prefix_refl (w.store.target path)
  have hcases := collectSources_eq_ok h'
  rw [Store.target_congr hagree.workingDir] at hcases
  rcases collectSources_eq_ok h with ⟨⟨t, hheld⟩, rfl⟩ | ⟨hnode, files, hfiles, rfl⟩
  · -- the path is a file in one store, so it is none of the directories of the other
    rcases hcases with ⟨-, rfl⟩ | ⟨hnode', -⟩
    · rfl
    · rw [← hagree.file _ htop, Store.held_eq_directory.mpr hnode'] at hheld
      cases hheld
  · rcases hcases with ⟨⟨t, hheld⟩, -⟩ | ⟨-, files', hfiles', rfl⟩
    · rw [hagree.file _ htop, Store.held_eq_directory.mpr hnode] at hheld
      cases hheld
    · -- the order in which directories list their names is lost when the files are sorted
      refine Text.sorted_ext ((nodup_filesIn hs' hfiles').filter _)
        ((nodup_filesIn hs hfiles).filter _) fun f => ?_
      rw [List.mem_filter, List.mem_filter]
      refine and_congr_left fun _ => ⟨?_, ?_⟩
      · exact mem_filesIn_of_agreeBelow' hagree hclosed hs' hfiles hfiles' htop
      · exact mem_filesIn_of_agreeBelow hagree hs hfiles hfiles' htop

end Sources

end AdtCompiler
