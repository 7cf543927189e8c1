import AdtCompiler.Proofs.CacheHistory
import AdtCompiler.Proofs.Resolution

/-!
# What the log has no influence on

A run tells the log what it does, but it never looks at the log. So it does the same whether a log
is kept or not, and a run of which nobody listened to the log can be told from the same run with a
listener. All parts of a run have this in common, and some more: they leave the environment alone,
they only add to the log, and they give plain names only to files and directories.

## Contents

- `Store.Tidy`: stores in which all names are plain
- `Tame`: computations on which the log has no influence
- `Tame.generate`: whole runs are tame
-/

namespace AdtCompiler

/-! ## Plain names -/

namespace Path

/-- A name leads from a place with plain names to another one. -/
theorem plain_descend {here : Place} (hhere : ∀ name ∈ here, Plain name) {name : Text}
    (hslash : slash ∉ name) : ∀ other ∈ descend here name, Plain other := by
  unfold descend
  split
  · exact hhere
  · rename_i hstays
    simp only [not_or] at hstays
    split
    · exact fun other hother => hhere other (List.dropLast_subset here hother)
    · rename_i hdots
      refine List.forall_mem_append.mpr ⟨hhere, List.forall_mem_singleton.mpr ?_⟩
      exact ⟨hstays.1, hslash, hstays.2, hdots⟩

theorem plain_lead {here : Place} (hhere : ∀ name ∈ here, Plain name) {names : List Text}
    (hnames : ∀ name ∈ names, slash ∉ name) : ∀ other ∈ lead here names, Plain other := by
  induction names generalizing here with
  | nil => exact hhere
  | cons name names ih =>
    obtain ⟨hname, hnames⟩ := List.forall_mem_cons.mp hnames
    exact ih (plain_descend hhere hname) hnames

end Path

namespace Store

variable {s s' : Store} {p q : Place} {path : Text} {node : Node}

/-- All names in the store are plain, and so are those of the working directory. -/
structure Tidy (s : Store) : Prop where
  names : ∀ q node, s.node? q = some node → ∀ name ∈ q, Path.Plain name
  workingDir : ∀ name ∈ s.workingDir, Path.Plain name

namespace Tidy

/-- Paths lead to places with plain names. -/
theorem place (hs : s.Tidy) (h : s.place path = .ok p) : ∀ name ∈ p, Path.Plain name := by
  rw [eq_target_of_place h, target]
  apply Path.plain_lead
  · split
    · simp
    · exact hs.workingDir
  · exact fun name => Text.not_mem_of_mem_splitOn

/-- Stores without other nodes are as tidy. -/
theorem of_nodes (hs : s.Tidy) (hdir : s'.workingDir = s.workingDir)
    (hnodes : ∀ q node, s'.node? q = some node → s.node? q = some node) : s'.Tidy where
  names q node hq := hs.names q node (hnodes q node hq)
  workingDir := hdir ▸ hs.workingDir

theorem putNode (hs : s.Tidy) (hp : ∀ name ∈ p, Path.Plain name) (node : Node) :
    (s.putNode p node).Tidy where
  names q other hq := by
    by_cases hqp : q = p
    · exact hqp ▸ hp
    · by_cases hnil : q = []
      · simp [hnil]
      · refine hs.names q other ?_
        simpa [node?_of_ne_nil hnil, Store.putNode, List.lookup_append, lookup_filter_ne, hqp,
          List.lookup_cons, beq_eq_false_iff_ne.mpr] using hq
  workingDir := hs.workingDir

theorem dropNode (hs : s.Tidy) (p : Place) : (s.dropNode p).Tidy := by
  refine hs.of_nodes rfl fun q node hq => ?_
  by_cases hnil : q = []
  · rwa [node?, if_pos (by simp [hnil])] at hq ⊢
  · rw [node?_of_ne_nil hnil, Store.dropNode, lookup_filter_ne] at hq
    rw [node?_of_ne_nil hnil]
    split at hq
    · cases hq
    · exact hq

theorem moveTree (hs : s.Tidy) (hp : p ≠ []) (hq : ∀ name ∈ q, Path.Plain name) :
    (s.moveTree p q).Tidy where
  names r node hr := by
    by_cases hnil : r = []
    · simp [hnil]
    · obtain ⟨r', hr', rfl | ⟨rest, rfl, rfl⟩⟩ := exists_node?_of_moveTree hp hnil hr
      · exact hs.names _ node hr'
      · -- what was moved keeps the names below the place it was moved from
        have hrest := (List.forall_mem_append.mp (hs.names _ node hr')).2
        exact List.forall_mem_append.mpr ⟨hq, hrest⟩
  workingDir := hs.workingDir

/-! Operations of the store. -/

theorem makeDir (hs : s.Tidy) (h : s.makeDir path = .ok s') : s'.Tidy := by
  obtain ⟨bare, p, hplace, rfl⟩ : ∃ bare p, s.place bare = .ok p ∧
      s' = s.putNode p .directory := by
    simp only [Store.makeDir, blame, bind, Except.bind] at h
    grind
  exact hs.putNode (hs.place hplace) _

theorem createTemp (hs : s.Tidy) {dir start ending : Text} {handle : Handle}
    (h : s.createTemp dir start ending = .ok (s', handle)) : s'.Tidy := by
  obtain ⟨path, p, hplace, hnodes, hdir⟩ : ∃ path p, s.place path = .ok p ∧
      s'.nodes = (s.putNode p (.file s.next)).nodes ∧ s'.workingDir = s.workingDir := by
    simp only [Store.createTemp, blame, bind, Except.bind] at h
    grind [Store.putNode]
  refine (hs.putNode (hs.place hplace) (.file s.next)).of_nodes hdir fun q node hq => ?_
  rwa [node?, hnodes] at hq

theorem append (hs : s.Tidy) {handle : Handle} {text : Text} (h : s.append handle text = .ok s') :
    s'.Tidy := by
  unfold Store.append at h
  split at h
  · cases h
  · cases h
    exact hs.of_nodes rfl fun _ _ hq => hq

theorem close (hs : s.Tidy) {handle : Handle} (h : s.close handle = .ok s') : s'.Tidy := by
  unfold Store.close at h
  split at h
  · cases h
  · cases h
    exact hs.of_nodes rfl fun _ _ hq => hq

theorem rename (hs : s.Tidy) {old new : Text} (h : s.rename old new = .ok s') : s'.Tidy := by
  obtain ⟨p, q, node, -, hplace, rfl | ⟨-, id, -, rfl⟩ | ⟨-, hbelow, rfl⟩⟩ := rename_cases h
  · exact hs
  · exact (hs.dropNode p).putNode (hs.place hplace) _
  · have hp : p ≠ [] := fun hnil => hbelow (by simp [hnil])
    exact hs.moveTree hp (hs.place hplace)

theorem remove (hs : s.Tidy) (h : s.remove path = .ok s') : s'.Tidy := by
  obtain ⟨p, rfl⟩ : ∃ p, s' = s.dropNode p := by
    simp only [Store.remove, blame, bind, Except.bind] at h
    grind
  exact hs.dropNode p

theorem removeTree (hs : s.Tidy) (h : s.removeTree path = .ok s') : s'.Tidy := by
  rcases removeTree_cases h with rfl | ⟨-, -, -, -, hdir, -⟩
  · exact hs
  · exact hs.of_nodes hdir fun _ _ hq => node?_of_removeTree h hq

end Tidy

end Store

/-! ## Tame computations -/

namespace World

variable {w : World} {entry : LogEntry}

theorem run_log_kept (h : ∃ mode, w.logMode = some mode ∧ mode.keeps entry = true) :
    (Logger.log entry : StateM World Unit).run w =
      ((), { w with logged := entry :: w.logged }) := by
  obtain ⟨mode, hmode, hkeeps⟩ := h
  change ((), _) = _
  beta_reduce
  rw [hmode]
  exact congrArg (Prod.mk ()) (if_pos hkeeps)

theorem run_log_dropped (h : ¬∃ mode, w.logMode = some mode ∧ mode.keeps entry = true) :
    (Logger.log entry : StateM World Unit).run w = ((), w) := by
  change ((), _) = _
  beta_reduce
  cases hmode : w.logMode with
  | some mode => exact congrArg (Prod.mk ()) (if_neg fun hkeeps => h ⟨mode, hmode, hkeeps⟩)
  | none => rfl

end World

/-- A computation on which the log has no influence. It also leaves the environment and the kind of
log alone, only adds to the log, and keeps the names of files plain. -/
structure Tame {α : Type} (x : StateM World α) : Prop where
  same : ∀ v w : World, v.store = w.store → v.environment = w.environment →
    (x.run v).1 = (x.run w).1 ∧ (x.run v).2.store = (x.run w).2.store
  environment : ∀ w : World, (x.run w).2.environment = w.environment
  logMode : ∀ w : World, (x.run w).2.logMode = w.logMode
  logged : ∀ w : World, w.logged <:+ (x.run w).2.logged
  tidy : ∀ w : World, w.store.Tidy → (x.run w).2.store.Tidy

namespace Tame

variable {α : Type}

/-- A computation that only looks, and not at the log. -/
theorem of_onlyLooks {x : StateM World α} (hlooks : OnlyLooks x)
    (hsame : ∀ v w : World, v.store = w.store → v.environment = w.environment →
      (x.run v).1 = (x.run w).1) : Tame x where
  same v w hstore henvironment := by
    rw [hlooks v, hlooks w]
    exact ⟨hsame v w hstore henvironment, hstore⟩
  environment w := by rw [hlooks w]
  logMode w := by rw [hlooks w]
  logged w := (hlooks w).symm ▸ List.suffix_refl w.logged
  tidy w hs := by rwa [hlooks w]

theorem compositional : Compositional fun α => Tame (α := α) where
  pure _ := of_onlyLooks (fun _ => rfl) fun _ _ _ _ => rfl
  bind {_ _ x g} hx hg := by
    constructor
    case same =>
      intro v w hstore henvironment
      obtain ⟨hresult, hfiles⟩ := hx.same v w hstore henvironment
      show ((g (x.run v).1).run (x.run v).2).1 = ((g (x.run w).1).run (x.run w).2).1 ∧
        ((g (x.run v).1).run (x.run v).2).2.store = ((g (x.run w).1).run (x.run w).2).2.store
      -- the second computation starts with the same result, but maybe with another log
      rw [hresult]
      apply (hg _).same _ _ hfiles
      rw [hx.environment, hx.environment, henvironment]
    all_goals intro w
    case environment => exact ((hg _).environment _).trans (hx.environment w)
    case logMode => exact ((hg _).logMode _).trans (hx.logMode w)
    case logged => exact (hx.logged w).trans ((hg _).logged _)
    case tidy => exact fun hs => (hg _).tidy _ (hx.tidy w hs)

/-! Operations of the model. -/

theorem log (entry : LogEntry) : Tame (Logger.log entry : StateM World Unit) := by
  -- an entry is kept or dropped, and in either case only the log changes
  have hrun (w : World) : ∃ logged, w.logged <:+ logged ∧
      (Logger.log entry : StateM World Unit).run w = ((), { w with logged }) := by
    by_cases hkept : ∃ mode, w.logMode = some mode ∧ mode.keeps entry = true
    · exact ⟨entry :: w.logged, List.suffix_cons entry w.logged, World.run_log_kept hkept⟩
    · exact ⟨w.logged, List.suffix_refl _, World.run_log_dropped hkept⟩
  constructor
  case same =>
    intro v w hstore _
    obtain ⟨_, -, hv⟩ := hrun v
    obtain ⟨_, -, hw⟩ := hrun w
    rw [hv, hw]
    exact ⟨rfl, hstore⟩
  all_goals intro w
  all_goals obtain ⟨logged, hlogged, hw⟩ := hrun w
  all_goals rw [hw]
  case logged => exact hlogged
  case tidy => exact id

/-- A computation that looks at the files alone, and changes nothing else. -/
theorem of_store {x : StateM World α} (hx : ∀ s : Store, ∃ a s', (s.Tidy → s'.Tidy) ∧
    ∀ w : World, w.store = s → x.run w = (a, { w with store := s' })) : Tame x := by
  constructor
  case same =>
    intro v w hstore _
    obtain ⟨a, s', -, hrun⟩ := hx w.store
    rw [hrun v hstore, hrun w rfl]
    exact ⟨rfl, rfl⟩
  all_goals intro w
  all_goals obtain ⟨a, s', htidy, hrun⟩ := hx w.store
  case logged => exact (hrun w rfl).symm ▸ List.suffix_refl w.logged
  all_goals rw [hrun w rfl]
  exact htidy

theorem change {f : Store → Except FileError Store}
    (hf : ∀ s s', f s = .ok s' → s.Tidy → s'.Tidy) : Tame (World.change f) := by
  refine of_store fun s => ?_
  cases h : f s with
  | ok s' => exact ⟨.ok (), s', hf s s' h, fun w hw => World.run_change_ok (hw ▸ h)⟩
  | error e =>
    refine ⟨.error e, s, id, fun w hw => ?_⟩
    subst hw
    exact World.run_change_error h

theorem createTemp (dir start ending : Text) :
    Tame (Host.createTemp dir start ending : StateM World _) := by
  refine of_store fun s => ?_
  rcases h : s.createTemp dir start ending with e | ⟨s', handle⟩
  · refine ⟨.error e, s, id, fun w hw => ?_⟩
    subst hw
    exact World.run_createTemp_error h
  · exact ⟨.ok handle, s', fun hs => hs.createTemp h,
      fun w hw => World.run_createTemp_ok (hw ▸ h)⟩

theorem hostWide : Compositional.HostWide fun α => Tame (α := α) where
  toCompositional := compositional
  log := log
  status path :=
    of_onlyLooks (fun _ => rfl) fun _ _ hstore _ => congrArg (Store.status · path) hstore
  load path := of_onlyLooks (fun _ => rfl) fun _ _ hstore _ => congrArg (Store.load · path) hstore
  entries path :=
    of_onlyLooks (fun _ => rfl) fun _ _ hstore _ => congrArg (Store.entries · path) hstore
  workingDir := of_onlyLooks (fun _ => rfl) fun _ _ hstore _ =>
    congrArg (fun s : Store => Store.pathOf s.workingDir) hstore
  environment name := of_onlyLooks (fun _ => rfl) fun _ _ _ henvironment =>
    congrArg (fun e : List (Text × Text) => (e.lookup name).getD []) henvironment
  clock := of_onlyLooks (fun _ => rfl) fun _ _ _ _ => rfl
  timeStamp := of_onlyLooks (fun _ => rfl) fun _ _ _ _ => rfl
  createTemp := createTemp
  makeDir _ := change fun _ _ h hs => Store.Tidy.makeDir hs h
  append _ _ := change fun _ _ h hs => Store.Tidy.append hs h
  close _ := change fun _ _ h hs => Store.Tidy.close hs h
  rename _ _ := change fun _ _ h hs => Store.Tidy.rename hs h
  remove _ := change fun _ _ h hs => Store.Tidy.remove hs h
  removeTree _ := change fun _ _ h hs => Store.Tidy.removeTree hs h

theorem collectSources (path extension : Text) :
    Tame (AdtCompiler.collectSources path extension) :=
  hostWide.collectSources hostWide.status hostWide.entries path extension

theorem sources (plan : GenerationPlan) (g : Generation) (paths : List Text) :
    Tame (Generation.sources plan g paths) := hostWide.sources (hostWide.source plan) g paths

/-- Whole runs are tame. -/
theorem generate (o : Options) (source destination : Text) :
    Tame (o.generate source destination) := hostWide.run o source destination

end Tame

end AdtCompiler
