import AdtCompiler.Proofs.Path
import AdtCompiler.Proofs.Store

/-!
# Where paths lead

A store refuses a path if a directory is missing on the way. If it does not, the place that it
finds is known from the path and the working directory alone. Cleaning a path does not change where
it leads, so neither do the ways in which paths are put together.

## Contents

- `Path.lead`: where names lead from a place
- `Store.target`: where a path leads, and `Store.eq_target_of_place`
- `Store.target_clean`, `Store.target_ofElements`, `Store.target_eq_descend`
- `Store.target_ne_inside`: a new file is not where the path leads that it is made for
-/

namespace AdtCompiler

namespace Path

/-! ## Names -/

/-- Where one name leads from a place. -/
def descend (here : Place) (name : Text) : Place :=
  if name = [] ∨ name = "." then here else if name = ".." then here.dropLast else here ++ [name]

/-- Where names lead from a place. -/
def lead (here : Place) (names : List Text) : Place := names.foldl descend here

theorem lead_append (here : Place) (names names' : List Text) :
    lead here (names ++ names') = lead (lead here names) names' :=
  List.foldl_append

theorem descend_nil (here : Place) : descend here [] = here := by simp [descend]

theorem descend_dot (here : Place) : descend here "." = here := by simp [descend]

theorem descend_plain {name : Text} (h : Plain name) (here : Place) :
    descend here name = here ++ [name] := by
  simp [descend, h.ne_nil, h.ne_dot, h.ne_dots]

theorem lead_plain {names : List Text} (h : ∀ name ∈ names, Plain name) (here : Place) :
    lead here names = here ++ names := by
  induction names generalizing here with
  | nil => simp [lead]
  | cons name names ih =>
    simp only [List.forall_mem_cons] at h
    rw [lead, List.foldl_cons, descend_plain h.1]
    exact (ih h.2 _).trans (by simp)

/-- Empty names lead nowhere. -/
theorem lead_filter (here : Place) (names : List Text) :
    lead here (names.filter (!·.isEmpty)) = lead here names := by
  induction names generalizing here with
  | nil => rfl
  | cons name names ih =>
    cases name with
    | nil => exact (ih here).trans (by simp [lead, descend_nil])
    | cons b rest => exact ih (descend here (b :: rest))

/-! ## Cleaning -/

/-- An element that a clean path keeps where it cannot be taken back. -/
def Kept (name : Text) : Prop := name ≠ [] ∧ name ≠ "."

theorem kept_of_mem_pushElement {rooted : Bool} {kept : List Text} {element name : Text}
    (hkept : ∀ name ∈ kept, Kept name) (h : name ∈ pushElement rooted kept element) :
    Kept name := by
  unfold pushElement at h
  grind [Kept]

theorem lead_concat (here : Place) (names : List Text) (name : Text) :
    lead here (names ++ [name]) = descend (lead here names) name := by
  simp [lead]

/-- An element leads where it leads from the place of the elements before it. -/
theorem lead_pushElement {rooted : Bool} {start : Place} (hstart : rooted = true → start = [])
    {kept : List Text} (hkept : ∀ name ∈ kept, Kept name) (element : Text) :
    lead start (pushElement rooted kept element).reverse =
      descend (lead start kept.reverse) element := by
  unfold pushElement
  split
  case isTrue hstays => rcases hstays with rfl | rfl <;> simp [descend]
  case isFalse hmoves =>
    split
    case isFalse => rw [List.reverse_cons, lead_concat]
    case isTrue hdots =>
      subst hdots
      cases kept with
      | nil => cases rooted <;> simp_all [lead, descend]
      | cons last before =>
        dsimp only
        split
        case isTrue => rw [List.reverse_cons, lead_concat]
        case isFalse hlast =>
          -- The element before is a name, which is what going up takes back.
          obtain ⟨hne, hdot⟩ := hkept last List.mem_cons_self
          rw [List.reverse_cons, lead_concat]
          simp [descend, hmoves, hne, hdot, hlast]

theorem lead_foldl_pushElement {rooted : Bool} {start : Place}
    (hstart : rooted = true → start = []) {kept : List Text} (hkept : ∀ name ∈ kept, Kept name)
    (names : List Text) :
    lead start (names.foldl (pushElement rooted) kept).reverse =
      lead (lead start kept.reverse) names := by
  induction names generalizing kept with
  | nil => rfl
  | cons name names ih =>
    rw [List.foldl_cons, ih fun _ => kept_of_mem_pushElement hkept, lead_pushElement hstart hkept]
    rfl

/-- The elements of a path lead where all its names do. -/
theorem lead_elements (path : Text) {start : Place} (hstart : isAbsolute path = true → start = []) :
    lead start (elements path) = lead start (path.splitOn slash) :=
  lead_foldl_pushElement hstart (by simp) _

/-! ## Last names -/

/-- The last name of a path; it may be empty. -/
def lastName (path : Text) : Text := (path.reverse.takeWhile (· ≠ slash)).reverse

theorem untilLastSlash_append_lastName (path : Text) :
    untilLastSlash path ++ lastName path = path := by
  rw [untilLastSlash, lastName, ← List.reverse_append, List.takeWhile_append_dropWhile,
    List.reverse_reverse]

theorem slash_not_mem_lastName (path : Text) : slash ∉ lastName path := by
  intro hmem
  have hall := List.all_eq_true.mp (List.all_takeWhile (l := path.reverse) (p := (· ≠ slash)))
  simpa using hall slash (List.mem_reverse.mp hmem)

theorem untilLastSlash_cases (path : Text) :
    untilLastSlash path = [] ∨ ∃ front, untilLastSlash path = front ++ [slash] := by
  unfold untilLastSlash
  cases hrest : path.reverse.dropWhile (· ≠ slash) with
  | nil => exact .inl rfl
  | cons b rest =>
    have hb : b = slash := by
      have hhead := List.head?_dropWhile_not (· ≠ slash) path.reverse
      rw [hrest] at hhead
      simpa using hhead
    exact .inr ⟨rest.reverse, by simp [hb]⟩

/-- The last element of a path is its last name, if it has one. -/
theorem base_eq_lastName {path : Text} (h : lastName path ≠ []) : base path = lastName path := by
  have hne : path ≠ [] := by
    rintro rfl
    exact h rfl
  have hhead : path.reverse.dropWhile (· = slash) = path.reverse := by
    cases hrev : path.reverse with
    | nil => rfl
    | cons b rest =>
      have hb : b ≠ slash := fun hb => h (by simp [lastName, hrev, hb])
      simp [hb]
  simp [base, hne, hhead, lastName]

theorem clean_ne_nil (path : Text) : clean path ≠ [] := by
  unfold clean ofElements
  dsimp only
  split
  · simp
  · split
    · decide
    · rename_i hbody
      simpa using hbody

end Path

namespace Store

open AdtCompiler.Path

variable {s : Store} {path : Text} {p : Place}

/-! ## Paths -/

/-- Where a path leads. -/
def target (s : Store) (path : Text) : Place :=
  lead (if isAbsolute path then [] else s.workingDir) (path.splitOn slash)

theorem eq_lead_of_follow {here : Place} {names : List Text} (hnames : ∀ name ∈ names, name ≠ [])
    (h : s.follow here names = .ok p) : p = lead here names := by
  induction names generalizing here with
  | nil => simpa [follow, lead] using h.symm
  | cons name rest ih =>
    simp only [List.forall_mem_cons] at hnames
    have hstep : s.follow (descend here name) rest = .ok p := by
      -- A file or nothing is found only behind the last name.
      unfold follow at h
      cases rest <;> grind [follow, descend]
    exact ih hnames.2 hstep

theorem lead_names (here : Place) (path : Text) :
    lead here (names path) = lead here (path.splitOn slash) := by
  unfold names
  dsimp only
  split
  · rw [lead_concat, descend_dot, lead_filter]
  · rw [lead_filter]

theorem ne_nil_of_mem_names {name : Text} (h : name ∈ names path) : name ≠ [] := by
  have hdot : ("." : Text) ≠ [] := by decide
  unfold names at h
  grind

/-- The place of a path is where it leads. -/
theorem eq_target_of_place (h : s.place path = .ok p) : p = s.target path := by
  unfold place at h
  split at h
  · cases h
  · split at h
    · cases h
    · rw [eq_lead_of_follow (fun _ => ne_nil_of_mem_names) h, lead_names, target]

theorem target_congr {s' : Store} (h : s'.workingDir = s.workingDir) (path : Text) :
    s'.target path = s.target path := by
  simp [target, h]

/-- The names of a path made of elements lead where the elements do. -/
theorem lead_ofElements (here : Place) (rooted : Bool) {elements : List Text}
    (h : ∀ name ∈ elements, Piece name) :
    lead here ((ofElements rooted elements).splitOn slash) = lead here elements := by
  by_cases hne : elements = []
  · subst hne
    cases rooted <;> rfl
  · rw [← lead_names, names_ofElements rooted hne h]

/-- A path leads where it leads once it is cleaned. -/
theorem target_clean (s : Store) (path : Text) : s.target (clean path) = s.target path := by
  unfold target clean
  rw [isAbsolute_ofElements _ piece_of_mem_elements, lead_ofElements _ _ piece_of_mem_elements,
    lead_elements]
  intro h
  simp [h]

/-- Names behind a path lead on from where it leads. -/
theorem target_append_slash (s : Store) {path : Text} (hne : path ≠ []) (rest : Text) :
    s.target (path ++ slash :: rest) = lead (s.target path) (rest.splitOn slash) := by
  rw [target, isAbsolute_append hne, Text.splitOn_append_sep, lead_append, target]

/-- Plain names behind the elements of a directory lead down from it. -/
theorem target_ofElements (s : Store) (dir : Text) {names : List Text}
    (h : ∀ name ∈ names, Plain name) :
    s.target (ofElements (isAbsolute dir) (elements dir ++ names)) = s.target dir ++ names := by
  rw [target, isAbsolute_ofElements_append dir h,
    lead_ofElements _ _ (piece_of_mem_elements_append dir h), lead_append, lead_plain h,
    lead_elements, target]
  intro habsolute
  simp [habsolute]

/-! ## Names in directories -/

/-- A name behind a slash leads on from where all before it leads. -/
theorem target_slash_append (s : Store) (front : Text) {name : Text} (h : slash ∉ name) :
    s.target (front ++ slash :: name) = descend (s.target (front ++ [slash])) name := by
  have habsolute : isAbsolute (front ++ slash :: name) = isAbsolute (front ++ [slash]) := by
    cases front <;> rfl
  have hempty : Text.splitOn slash ([] : Text) = [[]] := rfl
  rw [target, habsolute, Text.splitOn_append_sep, Text.splitOn_of_not_mem h, lead_concat, target,
    Text.splitOn_append_sep, hempty, lead_concat, descend_nil]

/-- A path leads where its last name leads from the directory that holds it. -/
theorem target_eq_descend (s : Store) (path : Text) :
    s.target path = descend (s.target (parent path)) (lastName path) := by
  have hpath := untilLastSlash_append_lastName path
  have hlast := slash_not_mem_lastName path
  rw [parent, target_clean]
  rcases untilLastSlash_cases path with hnone | ⟨front, hfront⟩
  · -- Without a slash the path is its last name.
    rw [hnone, List.nil_append] at hpath
    rw [hnone, hpath]
    rw [hpath] at hlast
    have hrelative : isAbsolute path = false := by
      cases path with
      | nil => rfl
      | cons b rest => exact beq_eq_false_iff_ne.mpr fun hb => hlast (by simp [hb])
    have hroot : s.target [] = s.workingDir := descend_nil _
    rw [hroot, target, hrelative, Text.splitOn_of_not_mem hlast]
    rfl
  · rw [hfront] at hpath ⊢
    rw [← target_slash_append s front hlast]
    exact congrArg s.target (by simpa using hpath.symm)

/-- A plain name in a directory leads down from where the directory is. -/
theorem target_inside (s : Store) {dir name : Text} (hdir : dir ≠ []) (h : Plain name) :
    s.target (inside dir name) = s.target dir ++ [name] := by
  unfold inside
  split
  case isTrue hslash =>
    obtain ⟨front, rfl⟩ := List.getLast?_eq_some_iff.mp hslash
    rw [List.append_assoc, List.singleton_append, target_slash_append s front h.not_mem,
      descend_plain h]
  case isFalse =>
    rw [List.append_assoc, List.singleton_append, target_append_slash s hdir,
      Text.splitOn_of_not_mem h.not_mem]
    exact descend_plain h _

/-- A new file beside a path is not where the path leads if its name is longer than that of the
path: other paths lead to the directory, or up from it. -/
theorem target_ne_inside (s : Store) (path : Text) {name : Text} (hplain : Plain name)
    (hlength : (base path).length < name.length) :
    s.target path ≠ s.target (inside (parent path) name) := by
  have hparent : parent path ≠ [] := clean_ne_nil _
  rw [target_inside s hparent hplain, target_eq_descend s path]
  generalize s.target (parent path) = dir
  intro heq
  have hlengths := congrArg List.length heq
  unfold descend at heq hlengths
  split at hlengths
  · simp at hlengths
  · split at hlengths
    · simp at hlengths
    · rename_i hmoves hdots
      simp only [if_neg hmoves, if_neg hdots, List.append_cancel_left_eq, List.cons.injEq,
        and_true] at heq
      rw [base_eq_lastName (fun hnil => hmoves (.inl hnil)), heq] at hlength
      exact Nat.lt_irrefl _ hlength

end Store

end AdtCompiler
