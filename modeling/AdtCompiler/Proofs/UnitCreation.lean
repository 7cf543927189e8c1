import AdtCompiler.Proofs.Publication
import AdtCompiler.Proofs.UnitPath
import Mathlib.Data.List.TakeWhile

/-!
# New targets below the directory for units

A target is created in two steps. The directories on the way to its unit are made, those that are
missing below the directory for units, and a new file is opened in the last of them. Neither step
touches a file that is there. If the new file has a place, then so has the unit, which will be
beside it under a shorter name.

## Contents

- `Path.dirAbove_ofElements`, `Path.parent_ofElements`: paths without their last element
- `Store.OnlyNewDirs`: stores that differ in new directories only
- `run_makeDirsWithin`: what making directories below one that exists leaves
- `Store.place_beside`: a place for the unit beside that of its new file
- `FileUnits.Created`, `FileUnits.created_of_create`: what the creation of a target leaves
-/

namespace AdtCompiler

/-! ## Paths without their last element -/

namespace Path

variable {xs : List Text} {x : Text}

/-- One more element stands behind a separator. -/
theorem ofElements_concat (rooted : Bool) (hne : xs ≠ []) (h : ∀ name ∈ xs, Piece name)
    (hx : Piece x) : ofElements rooted (xs ++ [x]) = ofElements rooted xs ++ slash :: x := by
  have hall : ∀ name ∈ xs ++ [x], Piece name := by
    simpa [or_imp, forall_and] using ⟨h, hx⟩
  apply Text.splitOn_injective slash
  rw [splitOn_ofElements rooted (by simp) hall, Text.splitOn_append_sep,
    splitOn_ofElements rooted hne h, Text.splitOn_of_not_mem hx.2]
  cases rooted <;> simp

/-- A path of one element. -/
theorem ofElements_singleton (rooted : Bool) (hx : Piece x) :
    ofElements rooted [x] = if rooted then slash :: x else x := by
  have hone : Text.join [slash] [x] = x := rfl
  simp [ofElements, hone, hx.1]

theorem ne_slash_of_mem_reverse (hx : slash ∉ x) : ∀ c ∈ x.reverse, c ≠ slash := by
  rintro c hc rfl
  exact hx (List.mem_reverse.mp hc)

/-- A path that ends with an element does not end with a separator. -/
theorem dropWhile_reverse_append (front : Text) (hx : Piece x) :
    (front ++ x).reverse.dropWhile (· == slash) = (front ++ x).reverse := by
  obtain ⟨b, rest, hrev⟩ := List.exists_cons_of_ne_nil (List.reverse_ne_nil_iff.mpr hx.1)
  have hb : b ≠ slash := ne_slash_of_mem_reverse hx.2 b (by simp [hrev])
  simp [hrev, hb]

theorem dirAbove_append_slash (front : Text) (hx : Piece x) :
    dirAbove (front ++ slash :: x) = front := by
  have hsplit : front ++ slash :: x = (front ++ [slash]) ++ x := by simp
  have hall : ∀ c ∈ x.reverse, (c != slash) = true := by
    simpa using ne_slash_of_mem_reverse hx.2
  rw [dirAbove, hsplit, dropWhile_reverse_append _ hx, List.reverse_append,
    List.dropWhile_append_of_pos hall]
  simp

theorem dirAbove_eq_nil (hx : slash ∉ x) : dirAbove x = [] := by
  have hall : ∀ c ∈ x.reverse.dropWhile (· == slash), (c != slash) = true := fun c hc => by
    simpa using ne_slash_of_mem_reverse hx c ((List.dropWhile_sublist _).subset hc)
  rw [dirAbove, List.dropWhile_eq_nil_iff.mpr hall]
  rfl

/-- The path above that of elements is that of all elements but the last. -/
theorem dirAbove_ofElements (rooted : Bool) (h : ∀ name ∈ xs, Piece name) (hx : Piece x) :
    dirAbove (ofElements rooted (xs ++ [x])) = if xs = [] then [] else ofElements rooted xs := by
  by_cases hne : xs = []
  · subst hne
    rw [List.nil_append, ofElements_singleton rooted hx, if_pos rfl]
    cases rooted with
    | true => exact dirAbove_append_slash [] hx
    | false => exact dirAbove_eq_nil hx.2
  · rw [if_neg hne, ofElements_concat rooted hne h hx, dirAbove_append_slash _ hx]

theorem untilLastSlash_append_slash (front : Text) (hx : slash ∉ x) :
    untilLastSlash (front ++ slash :: x) = front ++ [slash] := by
  have hall : ∀ c ∈ x.reverse, decide (c ≠ slash) = true := by
    simpa using ne_slash_of_mem_reverse hx
  have hreverse : (front ++ slash :: x).reverse = x.reverse ++ slash :: front.reverse := by simp
  rw [untilLastSlash, hreverse, List.dropWhile_append_of_pos hall]
  simp

theorem untilLastSlash_eq_nil (hx : slash ∉ x) : untilLastSlash x = [] := by
  have hall : ∀ c ∈ x.reverse, decide (c ≠ slash) = true := by
    simpa using ne_slash_of_mem_reverse hx
  rw [untilLastSlash, List.dropWhile_eq_nil_iff.mpr hall]
  rfl

/-- A separator at the end of a path means nothing. -/
theorem clean_append_slash {path : Text} (hne : path ≠ []) :
    clean (path ++ [slash]) = clean path := by
  have hsplit : (path ++ [slash]).splitOn slash = path.splitOn slash ++ [[]] :=
    Text.splitOn_append_sep slash path []
  have habsolute : isAbsolute (path ++ [slash]) = isAbsolute path := isAbsolute_append hne _
  have helements : elements (path ++ [slash]) = elements path := by
    rw [elements, hsplit, habsolute, List.foldl_concat, elements]
    simp [pushElement]
  rw [clean, helements, habsolute, clean]

/-- Plain names behind the elements of a directory make a clean path. -/
theorem clean_ofElements (dir : Text) (h : ∀ name ∈ xs, Plain name) :
    clean (ofElements (isAbsolute dir) (elements dir ++ xs)) =
      ofElements (isAbsolute dir) (elements dir ++ xs) := by
  rw [clean, isAbsolute_ofElements_append dir h, elements_ofElements_append dir h]

theorem ofElements_ne_nil (dir : Text) (h : ∀ name ∈ xs, Plain name) :
    ofElements (isAbsolute dir) (elements dir ++ xs) ≠ [] :=
  clean_ofElements dir h ▸ clean_ne_nil _

/-- The directory that holds the last of elements is that of the others. -/
theorem parent_ofElements (dir : Text) (h : ∀ name ∈ xs, Plain name) (hx : Plain x) :
    parent (ofElements (isAbsolute dir) (elements dir ++ xs ++ [x])) =
      ofElements (isAbsolute dir) (elements dir ++ xs) := by
  by_cases hne : elements dir ++ xs = []
  · rw [hne, List.nil_append, ofElements_singleton _ hx.piece]
    cases isAbsolute dir with
    | true => exact congrArg clean (untilLastSlash_append_slash [] hx.not_mem)
    | false => exact congrArg clean (untilLastSlash_eq_nil hx.not_mem)
  · rw [ofElements_concat _ hne (piece_of_mem_elements_append dir h) hx.piece, parent,
      untilLastSlash_append_slash _ hx.not_mem, clean_append_slash (ofElements_ne_nil dir h),
      clean_ofElements dir h]

/-- What stands before the last of elements does not depend on it. -/
theorem exists_ofElements_concat (rooted : Bool) (xs : List Text) :
    ∃ front, ∀ x, Piece x → ofElements rooted (xs ++ [x]) = front ++ x := by
  cases rooted with
  | true =>
    exact ⟨slash :: xs.flatMap (· ++ [slash]), fun x _ => by simp [ofElements, Text.join_concat]⟩
  | false =>
    exact ⟨xs.flatMap (· ++ [slash]), fun x hx => by simp [ofElements, Text.join_concat, hx.1]⟩

end Path

/-! ## New directories -/

namespace Store

variable {s s' s'' : Store} {new new' : Place → Prop} {path : Text}

/-- Stores that differ in directories only, which are new and at places of a kind. -/
structure OnlyNewDirs (new : Place → Prop) (s s' : Store) : Prop where
  node : ∀ q, s'.node? q = s.node? q ∨ s.node? q = none ∧ s'.node? q = some .directory ∧ new q
  contents : s'.contents = s.contents
  opened : s'.opened = s.opened
  next : s'.next = s.next
  workingDir : s'.workingDir = s.workingDir

namespace OnlyNewDirs

theorem refl (new : Place → Prop) (s : Store) : OnlyNewDirs new s s :=
  ⟨fun _ => .inl rfl, rfl, rfl, rfl, rfl⟩

theorem mono (h : OnlyNewDirs new s s') (hnew : ∀ q, new q → new' q) : OnlyNewDirs new' s s' :=
  { h with
    node := fun q =>
      (h.node q).imp_right fun ⟨hnone, hmade, hq⟩ => ⟨hnone, hmade, hnew q hq⟩ }

theorem trans (h : OnlyNewDirs new s s') (h' : OnlyNewDirs new s' s'') : OnlyNewDirs new s s'' where
  node q := by
    rcases h'.node q with hsame | ⟨hnone, hmade, hq⟩
    · rw [hsame]
      exact h.node q
    · rcases h.node q with hsame | ⟨-, hmade', -⟩
      · exact .inr ⟨hsame ▸ hnone, hmade, hq⟩
      · rw [hmade'] at hnone
        cases hnone
  contents := h'.contents.trans h.contents
  opened := h'.opened.trans h.opened
  next := h'.next.trans h.next
  workingDir := h'.workingDir.trans h.workingDir

/-- A path that does not end with a separator is that of the directory which is made. -/
theorem of_makeDir {front x : Text} (hx : Path.Piece x) (h : s.makeDir (front ++ x) = .ok s') :
    OnlyNewDirs (· = s.target (front ++ x)) s s' := by
  have hbare : ((front ++ x).reverse.dropWhile (· == Path.slash)).reverse = front ++ x := by
    rw [Path.dropWhile_reverse_append _ hx, List.reverse_reverse]
  obtain ⟨p, hplace, hnone, rfl⟩ : ∃ p, s.place (front ++ x) = .ok p ∧ s.node? p = none ∧
      s' = s.putNode p .directory := by
    simp only [makeDir, hbare, ite_self, blame, bind, Except.bind] at h
    grind
  have hp : p ≠ [] := fun hp => by simp [node?, hp] at hnone
  refine ⟨fun q => ?_, rfl, rfl, rfl, rfl⟩
  rw [node?_putNode hp]
  by_cases hq : q = p
  · subst hq
    exact .inr ⟨hnone, if_pos rfl, eq_target_of_place hplace⟩
  · exact .inl (if_neg hq)

end OnlyNewDirs

end Store

section MakeDirs

open Store (OnlyNewDirs)

variable {w : World}

theorem run_status (w : World) (path : Text) :
    (Host.status path : StateM World _).run w = (w.store.status path, w) := rfl

/-- One directory is made at most. -/
theorem run_makeDirBelow (w : World) (front : Text) {x : Text} (hx : Path.Piece x) :
    ∃ result store, (makeDirBelow (front ++ x) : StateM World _).run w =
        (result, { w with store }) ∧
      OnlyNewDirs (· = w.store.target (front ++ x)) w.store store := by
  rcases hmake : w.store.makeDir (front ++ x) with e | store
  · have hrun : (Host.makeDir (front ++ x) : StateM World _).run w = (.error e, w) :=
      World.run_change_error hmake
    rcases hstatus : w.store.status (front ++ x) with _ | _ | _ <;>
      exact ⟨_, w.store, (run_bind hrun _).trans (run_bind (hstatus ▸ run_status w _) _),
        .refl _ _⟩
  · exact ⟨.ok (), store, run_bind (World.run_change_ok hmake) _, .of_makeDir hx hmake⟩

/-- A directory that is missing is made below the one above it. -/
theorem run_makeDirsWithin_missing {path : Text} {e : FileError}
    (hstatus : w.store.status path = .error e) (fuel : Nat) :
    (makeDirsWithin (fuel + 1) path : StateM World _).run w =
      if dirAbove path = [] then (makeDirBelow path : StateM World _).run w
      else
        match (makeDirsWithin fuel (dirAbove path) : StateM World _).run w with
        | (.error e, w') => (.error e, w')
        | (.ok (), w') => (makeDirBelow path : StateM World _).run w' := by
  refine (run_bind (hstatus ▸ run_status w path) _).trans ?_
  by_cases hroot : dirAbove path = []
  · simp [hroot]
  · obtain ⟨⟨above, w'⟩, hrun⟩ :
        ∃ r, (makeDirsWithin fuel (dirAbove path) : StateM World _).run w = r := ⟨_, rfl⟩
    rw [if_neg hroot, hrun]
    simp only [List.isEmpty_iff, if_neg hroot]
    cases above with
    | error e => exact run_bind hrun _
    | ok _ => exact run_bind hrun _

/-- A place on the way from a place down to another one. -/
def OnWay (above : Place) (pieces : List Text) (q : Place) : Prop :=
  ∃ way, way <+: pieces ∧ q = above ++ way

/-- Below a directory that exists, directories are made on the way and nowhere else. -/
theorem run_makeDirsWithin {dir : Text} (hdir : w.store.status (Path.clean dir) = .ok .directory)
    (fuel : Nat) {pieces : List Text} (hpieces : ∀ piece ∈ pieces, Path.Plain piece) :
    ∃ result store, (makeDirsWithin fuel (Path.ofElements (Path.isAbsolute dir)
        (Path.elements dir ++ pieces)) : StateM World _).run w = (result, { w with store }) ∧
      OnlyNewDirs (OnWay (w.store.target dir) pieces) w.store store := by
  induction fuel generalizing pieces with
  | zero => exact ⟨_, w.store, rfl, .refl _ _⟩
  | succ fuel ih =>
    rcases hstatus : w.store.status (Path.ofElements (Path.isAbsolute dir)
        (Path.elements dir ++ pieces)) with e | _ | _
    · rcases List.eq_nil_or_concat' pieces with rfl | ⟨front, x, rfl⟩
      · -- the directory itself is there
        rw [List.append_nil] at hstatus
        cases hstatus.symm.trans hdir
      · have hfront : ∀ piece ∈ front, Path.Plain piece := fun piece hpiece =>
          hpieces piece (List.mem_append_left _ hpiece)
        have hx : Path.Piece x := (hpieces x (by simp)).piece
        obtain ⟨lead, hlead⟩ := Path.exists_ofElements_concat (Path.isAbsolute dir)
          (Path.elements dir ++ front)
        have hlead := hlead x hx
        have habove := Path.dirAbove_ofElements (Path.isAbsolute dir)
          (Path.piece_of_mem_elements_append dir hfront) hx
        have htarget := w.store.target_ofElements dir hpieces
        rw [List.append_assoc] at hlead habove
        rw [hlead] at htarget hstatus habove ⊢
        rw [run_makeDirsWithin_missing hstatus, habove]
        -- the last directory is made wherever those above it were made before
        have hmade : ∀ store,
            OnlyNewDirs (OnWay (w.store.target dir) (front ++ [x])) w.store store →
            ∃ result store', (makeDirBelow (lead ++ x) : StateM World _).run { w with store } =
                (result, { w with store := store' }) ∧
              OnlyNewDirs (OnWay (w.store.target dir) (front ++ [x])) w.store store' := by
          intro store hdirs
          obtain ⟨result, store', hrun, hnew⟩ := run_makeDirBelow { w with store } lead hx
          refine ⟨result, store', hrun, hdirs.trans (hnew.mono fun q hq => ?_)⟩
          refine ⟨front ++ [x], List.prefix_rfl, ?_⟩
          rw [hq, Store.target_congr hdirs.workingDir, htarget]
        by_cases hroot : Path.elements dir ++ front = []
        · simp only [if_pos hroot, if_true]
          exact hmade w.store (.refl _ _)
        · obtain ⟨above, store, hrun, hdirs⟩ := ih hfront
          have hdirs : OnlyNewDirs (OnWay (w.store.target dir) (front ++ [x])) w.store store :=
            hdirs.mono fun q ⟨way, hway, hq⟩ => ⟨way, hway.trans (List.prefix_append _ _), hq⟩
          rw [if_neg hroot, if_neg (Path.ofElements_ne_nil dir hfront), hrun]
          cases above with
          | error e => exact ⟨_, store, rfl, hdirs⟩
          | ok _ => exact hmade store hdirs
    · exact ⟨_, w.store, run_bind (hstatus ▸ run_status w _) _, .refl _ _⟩
    · exact ⟨_, w.store, run_bind (hstatus ▸ run_status w _) _, .refl _ _⟩

end MakeDirs

/-! ## Files beside each other -/

namespace Path

variable {xs : List Text} {x : Text}

/-- The last name of a path is what stands behind its last separator. -/
theorem getLast?_splitOn (path : Text) : (path.splitOn slash).getLast? = some (lastName path) := by
  have hlast := Text.splitOn_of_not_mem (slash_not_mem_lastName path)
  rcases untilLastSlash_cases path with hnone | ⟨front, hfront⟩
  · have hpath := untilLastSlash_append_lastName path
    rw [hnone, List.nil_append] at hpath
    rw [hpath] at hlast ⊢
    rw [hlast, List.getLast?_singleton]
  · have hpath : front ++ slash :: lastName path = path := by
      simpa [hfront] using untilLastSlash_append_lastName path
    rw [← hpath, Text.splitOn_append_sep, hpath, hlast, List.getLast?_concat]

/-- The last of elements is the last element. -/
theorem base_ofElements (rooted : Bool) (h : ∀ name ∈ xs ++ [x], Piece name) :
    base (ofElements rooted (xs ++ [x])) = x := by
  have hx : Piece x := h x (by simp)
  have hlast := getLast?_splitOn (ofElements rooted (xs ++ [x]))
  rw [splitOn_ofElements rooted (by simp) h] at hlast
  have hname : x = lastName (ofElements rooted (xs ++ [x])) := by
    cases rooted with
    | true =>
      rw [if_pos rfl, ← List.cons_append, List.getLast?_concat] at hlast
      exact Option.some.inj hlast
    | false =>
      rw [if_neg Bool.false_ne_true, List.getLast?_concat] at hlast
      exact Option.some.inj hlast
  rw [base_eq_lastName (fun hnil => hx.1 (hname.trans hnil)), ← hname]

/-- A name in a directory made of elements is one more element. The path of the directory is
written out only where there are no elements to name it. -/
theorem inside_ofElements (rooted : Bool) (h : ∀ name ∈ xs, Piece name) (hx : Piece x) :
    inside (ofElements rooted xs) x =
      if rooted = false ∧ xs = [] then "." ++ slash :: x else ofElements rooted (xs ++ [x]) := by
  rcases List.eq_nil_or_concat' xs with rfl | ⟨front, last, rfl⟩
  · cases rooted with
    | true => exact (ofElements_singleton true hx).symm
    | false => rfl
  · have hlast : Piece last := h last (by simp)
    obtain ⟨lead, hlead⟩ := exists_ofElements_concat rooted front
    have hend : (ofElements rooted (front ++ [last])).getLast? ≠ some slash := by
      rw [hlead last hlast, List.getLast?_append_of_ne_nil _ hlast.1]
      exact fun hslash => hlast.2 (List.mem_of_getLast? hslash)
    rw [inside, if_neg hend, if_neg (by simp), ofElements_concat rooted (by simp) h hx,
      List.append_assoc, List.singleton_append]

end Path

namespace Store

variable {s : Store} {p : Place} {path : Text}

theorem place_eq_ok : s.place path = .ok p ↔ path ≠ [] ∧ 0 ∉ path ∧
    s.follow (if Path.isAbsolute path then [] else s.workingDir) (names path) = .ok p := by
  unfold place
  by_cases hne : path = []
  · simp [hne]
  · by_cases hzero : 0 ∈ path <;> simp [hne, hzero]

/-- Where names lead to a place, they do with another name at their end that is not longer. -/
theorem follow_beside {here : Place} {xs : List Text} {a b : Text} (ha : Path.Plain a)
    (hb : Path.Plain b) (hlength : b.length ≤ a.length)
    (h : s.follow here (xs ++ [a]) = .ok p) : ∃ q, s.follow here (xs ++ [b]) = .ok q := by
  induction xs generalizing here with
  | nil =>
    -- the last name is the only one that may lead to nothing, if it is short enough
    have hfits : ¬ maxName < a.length := by
      intro hlong
      simp [follow, ha.ne_dot, ha.ne_dots, hlong] at h
    have hfits' : ¬ maxName < b.length := by omega
    rcases hnode : s.node? (here ++ [b]) with _ | _ | id <;>
      simp [follow, hb.ne_dot, hb.ne_dots, hfits', hnode]
  | cons name rest ih =>
    -- the names before it are the same, and none of them is the last one
    have hmore : ∀ c : Text, (rest ++ [c]).isEmpty = false := by simp
    rw [List.cons_append, follow] at h ⊢
    by_cases hdot : name = "."
    · rw [if_pos hdot] at h ⊢
      exact ih h
    · rw [if_neg hdot] at h ⊢
      by_cases hdots : name = ".."
      · rw [if_pos hdots] at h ⊢
        exact ih h
      · rw [if_neg hdots] at h ⊢
        by_cases hlong : maxName < name.length
        · simp [hlong] at h
        · rw [if_neg hlong] at h ⊢
          rcases hnode : s.node? (here ++ [name]) with _ | _ | id
          · simp [hnode, hmore] at h
          · simp only [hnode] at h ⊢
            exact ih h
          · simp [hnode, hmore] at h

/-- A name in a directory made of elements is found under one more element. -/
theorem place_ofElements_concat {rooted : Bool} {xs : List Text} {a : Text}
    (hxs : ∀ name ∈ xs, Path.Piece name) (ha : Path.Piece a)
    (h : s.place (Path.inside (Path.ofElements rooted xs) a) = .ok p) :
    s.place (Path.ofElements rooted (xs ++ [a])) = .ok p := by
  rw [Path.inside_ofElements rooted hxs ha] at h
  split at h
  case isFalse => exact h
  case isTrue hhere =>
    -- the path begins with the name for the directory itself, which leads nowhere
    obtain ⟨rfl, rfl⟩ := hhere
    obtain ⟨-, hzero, hfollow⟩ := place_eq_ok.mp h
    have hone : Path.ofElements false [a] = a := Path.ofElements_singleton false ha
    have hrelative : Path.isAbsolute (Path.ofElements false [a]) = false :=
      Path.isAbsolute_ofElements false (by simpa using ha)
    have hnames : names ("." ++ Path.slash :: a) = [("." : Text), a] := by
      have hdot : Text.splitOn Path.slash "." = [("." : Text)] := by decide
      have hne : ("." : Text) ≠ [] := by decide
      simp [names, Text.splitOn_append_sep, hdot, Text.splitOn_of_not_mem ha.2, ha.1, hne]
    refine place_eq_ok.mpr ⟨hone.symm ▸ ha.1, fun hmem => hzero ?_, ?_⟩
    · exact List.mem_append_right _ (List.mem_cons_of_mem _ (hone ▸ hmem))
    · rw [List.nil_append, hrelative, names_ofElements false (by simp) (by simpa using ha)]
      rw [hnames, follow, if_pos rfl] at hfollow
      exact hfollow

/-- Where a path has a place, so has the path with a last element that is shorter and has no other
bytes. -/
theorem place_beside {rooted : Bool} {xs : List Text} {a b : Text}
    (hxs : ∀ name ∈ xs, Path.Piece name) (ha : Path.Plain a) (hb : Path.Plain b)
    (hlength : b.length ≤ a.length) (hbytes : b ⊆ a)
    (h : s.place (Path.ofElements rooted (xs ++ [a])) = .ok p) :
    ∃ q, s.place (Path.ofElements rooted (xs ++ [b])) = .ok q := by
  have hconcat : ∀ {c}, Path.Plain c → ∀ name ∈ xs ++ [c], Path.Piece name := fun hc =>
    List.forall_mem_append.mpr ⟨hxs, List.forall_mem_singleton.mpr hc.piece⟩
  obtain ⟨lead, hlead⟩ := Path.exists_ofElements_concat rooted xs
  obtain ⟨-, hzero, hfollow⟩ := place_eq_ok.mp h
  rw [names_ofElements _ (by simp) (hconcat ha), Path.isAbsolute_ofElements _ (hconcat ha)]
    at hfollow
  obtain ⟨q, hq⟩ := follow_beside ha hb hlength hfollow
  refine ⟨q, place_eq_ok.mpr ⟨?_, ?_, ?_⟩⟩
  · rw [hlead b hb.piece]
    exact List.append_ne_nil_of_right_ne_nil _ hb.ne_nil
  · rw [hlead a ha.piece, List.mem_append, not_or] at hzero
    rw [hlead b hb.piece, List.mem_append, not_or]
    exact ⟨hzero.1, fun hmem => hzero.2 (hbytes hmem)⟩
  · rw [names_ofElements _ (by simp) (hconcat hb), Path.isAbsolute_ofElements _ (hconcat hb)]
    exact hq

theorem opened_of_createTemp {s' : Store} {dir start : Text} {h : Handle}
    (hcreate : s.createTemp dir start [] = .ok (s', h)) :
    s'.opened = (h.id, h.id) :: s.opened := by
  unfold createTemp at hcreate
  split at hcreate
  · cases hcreate
  · rcases hp : s.place (Path.inside dir (s.newName start [])) with e | p
    · simp [hp, blame, bind, Except.bind] at hcreate
    · simp only [hp, blame, bind, Except.bind, Except.ok.injEq, Prod.mk.injEq] at hcreate
      obtain ⟨rfl, rfl⟩ := hcreate
      rfl

end Store

/-! ## New targets -/

namespace FileUnits

open Store (OnlyNewDirs Pending Settled)

variable {f : FileUnits} {name : Text} {w w' : World} {t : FileTarget}

/-- A place below another one under names without dots. The directories for units are at such
places, and no unit is. -/
def Undotted (above q : Place) : Prop := ∃ way, q = above ++ way ∧ ∀ piece ∈ way, 46 ∉ piece

/-- What is left of a store where a target was created: new directories, and a file that is open and
empty, has a name of its own, and stands beside the place of the unit. -/
structure Created (f : FileUnits) (name : Text) (t : FileTarget) (s s' : Store) : Prop where
  path_eq : t.path = f.pathFor name
  closed_eq : t.closed = false
  failure_eq : t.failure = none
  place : ∃ q, s'.place t.path = .ok q
  temp : ∃ middle p, OnlyNewDirs (Undotted (s.target f.dir)) s middle ∧
    Pending middle t.temp p [] s' ∧ s'.opened = (t.temp.id, t.temp.id) :: middle.opened ∧
    ¬ Settled p

theorem created_of_create (hf : f.extension.isDotLetters = true) (hname : IsUnitName name)
    (hdir : w.store.status (Path.clean f.dir) = .ok .directory)
    (h : (f.create name : StateM World _).run w = (.ok t, w')) :
    f.Created name t w.store w'.store := by
  obtain ⟨before, last, -, hpieces, hplain, hpath⟩ := exists_pieces hf hname
  simp only [List.forall_mem_append, List.forall_mem_singleton] at hpieces hplain
  have hfront := Path.piece_of_mem_elements_append f.dir hplain.1
  obtain ⟨w₁, hmake, hcreate, ht⟩ := steps_of_create h
  rw [← List.append_assoc] at hpath
  have hbase : Path.base (f.pathFor name) = last ++ f.extension := by
    rw [hpath]
    exact Path.base_ofElements _ (List.forall_mem_append.mpr
      ⟨hfront, List.forall_mem_singleton.mpr hplain.2.piece⟩)
  rw [hbase, hpath, Path.parent_ofElements f.dir hplain.1 hplain.2] at hcreate
  rw [hpath, Path.parent_ofElements f.dir hplain.1 hplain.2] at hmake
  obtain ⟨made, store, hmake', hdirs⟩ := run_makeDirsWithin hdir _ hplain.1
  obtain ⟨-, rfl⟩ := Prod.mk.inj (hmake'.symm.trans hmake)
  -- the temporary file is beside the final one, and its name is longer
  generalize hstart : ("." ++ (last ++ f.extension) ++ ".tmp-" : Text) = start at hcreate
  have hlength : 2 ≤ start.length := by
    have hpattern : (".tmp-" : Text).length = 5 := by decide
    simp only [← hstart, List.length_append]
    omega
  obtain ⟨above, hpending, -⟩ := Pending.of_createTemp hlength hcreate
  obtain ⟨hslash, hinside⟩ := Store.name_of_createTemp hcreate
  obtain ⟨n, hnew, -⟩ := store.exists_newName start []
  have hnewPlain := store.plain_newName hslash hlength
  refine ⟨by rw [ht], by rw [ht], by rw [ht], ?_, store, _, hdirs.mono ?_, hpending,
    Store.opened_of_createTemp hcreate, fun hsettled => hsettled.ne_newName rfl⟩
  · have hplace := Store.place_ofElements_concat hfront hnewPlain.piece
      (hinside ▸ hpending.place)
    rw [ht, hpath]
    refine Store.place_beside hfront hnewPlain hplain.2 ?_ ?_ hplace
    · rw [hnew, ← hstart]
      simp only [List.length_append]
      omega
    · intro b hb
      rw [hnew, ← hstart]
      simp only [List.mem_append] at hb ⊢
      exact .inl (.inl (.inl (.inr hb)))
  · -- directories are made for pieces of the name, in which there are no dots
    rintro q ⟨way, hway, rfl⟩
    exact ⟨way, rfl, fun piece hpiece =>
      dot_not_mem_of_isIdentifier (hpieces.1 piece (hway.subset hpiece))⟩

end FileUnits

end AdtCompiler
