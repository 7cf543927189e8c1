import AdtCompiler.Host.Store
import Mathlib.Data.List.Basic

/-!
# Where paths end

Cleaning a path may take back many of its elements, but names at its end that stand for themselves
stay there. Whatever a store makes of the path, the place it finds ends with these names, so that
the names at the end of two paths are enough to tell their places apart.

## Contents

- `Path.join_eq_ofElements`: the elements of a joined path end with the names joined last
- `Path.Normal`, `Path.elements_ofElements`: elements that are clean are those of the path made of
  them
- `Store.place_inside`: the place of a name in a directory ends with the name
-/

namespace AdtCompiler

/-! ## Splitting and joining -/

namespace Text

theorem splitOn_eq (sep : UInt8) (t : Text) : t.splitOn sep = List.splitOn sep t := by
  fun_induction Text.splitOn sep t with
  | case1 => rfl
  | case2 t ih => simp [List.splitOn_cons_eq_if_modifyHead, ih]
  | case3 b t hb hnil ih => exact absurd (ih.symm.trans hnil) (List.splitOn_ne_nil _ _)
  | case4 b t hb piece more hcons ih =>
    rw [List.splitOn_cons_eq_if_modifyHead, if_neg (by simpa using hb), ← ih, hcons]
    rfl

theorem join_eq_intercalate (sep : Text) (ts : List Text) : join sep ts = sep.intercalate ts := by
  fun_induction join sep ts with
  | case1 => rfl
  | case2 t => simp
  | case3 t rest hrest ih =>
    obtain ⟨u, rest, rfl⟩ := List.exists_cons_of_ne_nil hrest
    simp [ih, List.intercalate_cons_cons]

theorem join_concat (sep : Text) (ts : List Text) (t : Text) :
    join sep (ts ++ [t]) = ts.flatMap (· ++ sep) ++ t := by
  induction ts with
  | nil => rfl
  | cons u ts ih =>
    cases ts with
    | nil => simp [join]
    | cons v ts => simp_all [join]

theorem splitOn_append_sep (sep : UInt8) (s t : Text) :
    Text.splitOn sep (s ++ sep :: t) = Text.splitOn sep s ++ Text.splitOn sep t := by
  simp only [splitOn_eq, List.splitOn_append_cons_self]

theorem splitOn_of_not_mem {sep : UInt8} {t : Text} (h : sep ∉ t) : t.splitOn sep = [t] := by
  rw [splitOn_eq, List.splitOn_eq_singleton h]

theorem not_mem_of_mem_splitOn {sep : UInt8} {t piece : Text} (h : piece ∈ t.splitOn sep) :
    sep ∉ piece := by
  fun_induction Text.splitOn sep t generalizing piece with
  | case1 => simp_all
  | case2 t ih =>
    rcases List.mem_cons.mp h with rfl | h
    · exact List.not_mem_nil
    · exact ih h
  | case3 b t hb hnil ih => simp_all [Ne.symm hb]
  | case4 b t hb first more hcons ih =>
    rcases List.mem_cons.mp h with rfl | h
    · have hfirst : sep ∉ first := ih (by simp [hcons])
      simp [Ne.symm hb, hfirst]
    · exact ih (by simp [hcons, h])

theorem mem_of_mem_splitOn {sep b : UInt8} {t piece : Text} (h : piece ∈ t.splitOn sep)
    (hb : b ∈ piece) : b ∈ t := by
  fun_induction Text.splitOn sep t generalizing piece with
  | case1 => simp_all
  | case2 t ih =>
    rcases List.mem_cons.mp h with rfl | h
    · cases hb
    · exact List.mem_cons_of_mem _ (ih h hb)
  | case3 c t _ hnil ih => simp_all
  | case4 c t _ first more hcons ih =>
    rcases List.mem_cons.mp h with rfl | h
    · rcases List.mem_cons.mp hb with rfl | hb
      · exact List.mem_cons_self
      · exact List.mem_cons_of_mem _ (ih (by simp [hcons]) hb)
    · exact List.mem_cons_of_mem _ (ih (by simp [hcons, h]) hb)

theorem splitOn_join {sep : UInt8} {ts : List Text} (h : ∀ t ∈ ts, sep ∉ t) (hne : ts ≠ []) :
    (join [sep] ts).splitOn sep = ts := by
  rw [splitOn_eq, join_eq_intercalate, List.splitOn_intercalate sep h hne]

/-- A text can be put together again from its pieces. -/
theorem splitOn_injective (sep : UInt8) : Function.Injective (splitOn sep) := by
  intro s t h
  rw [splitOn_eq, splitOn_eq] at h
  exact (List.intercalate_splitOn sep).symm.trans (h ▸ List.intercalate_splitOn sep)

end Text

namespace Path

/-! ## Elements that stay -/

/-- A name that stands for itself in a path. -/
structure Plain (name : Text) : Prop where
  ne_nil : name ≠ []
  not_mem : slash ∉ name
  ne_dot : name ≠ "."
  ne_dots : name ≠ ".."

instance (name : Text) : Decidable (Plain name) :=
  decidable_of_iff (name ≠ [] ∧ slash ∉ name ∧ name ≠ "." ∧ name ≠ "..")
    ⟨fun ⟨hnil, hslash, hdot, hdots⟩ => ⟨hnil, hslash, hdot, hdots⟩,
      fun h => ⟨h.ne_nil, h.not_mem, h.ne_dot, h.ne_dots⟩⟩

/-- A text that can stand between the separators of a path without separators in a row. -/
def Piece (name : Text) : Prop := name ≠ [] ∧ slash ∉ name

theorem plain_of_length {name : Text} (hslash : slash ∉ name) (hlength : 2 < name.length) :
    Plain name := by
  refine ⟨?_, hslash, ?_, ?_⟩ <;> rintro rfl <;> exact absurd hlength (by decide)

theorem Plain.piece {name : Text} (h : Plain name) : Piece name := ⟨h.ne_nil, h.not_mem⟩

theorem pushElement_plain {name : Text} (h : Plain name) (rooted : Bool) (kept : List Text) :
    pushElement rooted kept name = name :: kept := by
  simp [pushElement, h.ne_nil, h.ne_dot, h.ne_dots]

theorem foldl_pushElement_plain {names : List Text} (h : ∀ name ∈ names, Plain name)
    (rooted : Bool) (kept : List Text) :
    names.foldl (pushElement rooted) kept = names.reverse ++ kept := by
  induction names generalizing kept with
  | nil => rfl
  | cons name names ih =>
    simp only [List.forall_mem_cons] at h
    rw [List.foldl_cons, pushElement_plain h.1, ih h.2]
    simp

theorem mem_pushElement {rooted : Bool} {kept : List Text} {element name : Text}
    (h : name ∈ pushElement rooted kept element) :
    name ∈ kept ∨ name = element ∧ element ≠ [] := by
  unfold pushElement at h
  split at h
  · exact .inl h
  · rename_i hne
    simp only [not_or] at hne
    split at h
    · -- Two dots take a name away, or stay if there is none to take.
      cases kept with
      | nil => cases rooted <;> simp_all
      | cons last before =>
        dsimp only at h
        split at h
        · rcases List.mem_cons.mp h with rfl | h
          · exact .inr ⟨rfl, hne.1⟩
          · exact .inl h
        · exact .inl (List.mem_cons_of_mem _ h)
    · rcases List.mem_cons.mp h with rfl | h
      · exact .inr ⟨rfl, hne.1⟩
      · exact .inl h

theorem piece_of_mem_foldl {rooted : Bool} {pieces kept : List Text}
    (hpieces : ∀ piece ∈ pieces, slash ∉ piece) (hkept : ∀ name ∈ kept, Piece name) :
    ∀ name ∈ pieces.foldl (pushElement rooted) kept, Piece name := by
  induction pieces generalizing kept with
  | nil => exact hkept
  | cons piece pieces ih =>
    simp only [List.forall_mem_cons] at hpieces
    refine ih hpieces.2 fun name hname => ?_
    rcases mem_pushElement hname with hname | ⟨rfl, hne⟩
    · exact hkept name hname
    · exact ⟨hne, hpieces.1⟩

/-- The elements of a path are pieces of it. -/
theorem piece_of_mem_elements {path : Text} : ∀ name ∈ elements path, Piece name := by
  intro name hname
  have hnone : ∀ name ∈ ([] : List Text), Piece name := by simp
  exact piece_of_mem_foldl (fun piece => Text.not_mem_of_mem_splitOn) hnone name
    (List.mem_reverse.mp hname)

theorem piece_of_mem_elements_append (dir : Text) {names : List Text}
    (h : ∀ name ∈ names, Plain name) : ∀ name ∈ elements dir ++ names, Piece name :=
  List.forall_mem_append.mpr ⟨piece_of_mem_elements, fun name hname => (h name hname).piece⟩

theorem isAbsolute_append {path : Text} (hne : path ≠ []) (rest : Text) :
    isAbsolute (path ++ rest) = isAbsolute path := by
  obtain ⟨b, path, rfl⟩ := List.exists_cons_of_ne_nil hne
  rfl

/-- A path that begins with a plain name does not start at the root. -/
theorem isAbsolute_plain {path : Text} (h : ∀ name ∈ path.splitOn slash, Plain name) :
    isAbsolute path = false := by
  cases path with
  | nil => rfl
  | cons b path =>
    refine beq_eq_false_iff_ne.mpr fun hb => (h [] ?_).ne_nil rfl
    simp [hb, Text.splitOn]

/-- Plain names behind a path are elements behind those of the path. -/
theorem elements_append {path : Text} (hne : path ≠ []) {rest : Text}
    (h : ∀ name ∈ rest.splitOn slash, Plain name) :
    elements (path ++ slash :: rest) = elements path ++ rest.splitOn slash := by
  rw [elements, isAbsolute_append hne, Text.splitOn_append_sep, List.foldl_append,
    foldl_pushElement_plain h, List.reverse_append, List.reverse_reverse, elements]

theorem elements_plain {path : Text} (h : ∀ name ∈ path.splitOn slash, Plain name) :
    elements path = path.splitOn slash := by
  rw [elements, foldl_pushElement_plain h, List.append_nil, List.reverse_reverse]

/-- A joined path has the elements of the directory and then the plain names joined to it. -/
theorem join_eq_ofElements (dir : Text) {rest : Text}
    (h : ∀ name ∈ rest.splitOn slash, Plain name) :
    join [dir, rest] = ofElements (isAbsolute dir) (elements dir ++ rest.splitOn slash) := by
  have hrest : rest ≠ [] := by
    rintro rfl
    exact (h [] (by simp [Text.splitOn])).ne_nil rfl
  by_cases hdir : dir = []
  · have hjoin : join [dir, rest] = clean rest := by simp [join, hdir, hrest, Text.join]
    rw [hjoin, clean, isAbsolute_plain h, elements_plain h, hdir]
    rfl
  · have hjoin : join [dir, rest] = clean (dir ++ slash :: rest) := by simp [join, hdir, Text.join]
    rw [hjoin, clean, isAbsolute_append hdir, elements_append hdir h]

/-- What is put behind a path is put behind its last element. -/
theorem ofElements_append (rooted : Bool) (front : List Text) {name : Text} (hname : name ≠ [])
    (ending : Text) :
    ofElements rooted (front ++ [name]) ++ ending =
      ofElements rooted (front ++ [name ++ ending]) := by
  cases rooted <;> simp [ofElements, Text.join_concat, hname]

/-- What is put behind a joined path is put behind the last of the names joined to it. -/
theorem join_append_eq_ofElements (dir : Text) {rest name : Text} {before : List Text}
    (hrest : rest.splitOn slash = before ++ [name]) (h : ∀ n ∈ before ++ [name], Plain n)
    (ending : Text) :
    join [dir, rest] ++ ending =
      ofElements (isAbsolute dir) (elements dir ++ (before ++ [name ++ ending])) := by
  have hname : Plain name := h name (by simp)
  rw [join_eq_ofElements dir (hrest ▸ h), hrest, ← List.append_assoc,
    ofElements_append _ _ hname.ne_nil, List.append_assoc]

theorem isAbsolute_ofElements (rooted : Bool) {names : List Text} (h : ∀ name ∈ names, Piece name) :
    isAbsolute (ofElements rooted names) = rooted := by
  cases rooted with
  | true => rfl
  | false =>
    cases names with
    | nil => rfl
    | cons name names =>
      obtain ⟨b, rest, rfl⟩ := List.exists_cons_of_ne_nil (h name List.mem_cons_self).1
      have hslash : slash ∉ b :: rest := (h _ List.mem_cons_self).2
      cases names <;> simp_all [ofElements, Text.join, isAbsolute, Ne.symm]

/-- Between the separators of a path made of elements there are these elements; at the root there
is an empty piece before them. -/
theorem splitOn_ofElements (rooted : Bool) {names : List Text} (hne : names ≠ [])
    (h : ∀ name ∈ names, Piece name) :
    (ofElements rooted names).splitOn slash = if rooted then [] :: names else names := by
  have hsplit := Text.splitOn_join (fun name hname => (h name hname).2) hne
  have hbody : Text.join [slash] names ≠ [] := by
    intro hbody
    have hlone : names = [[]] := by rw [← hsplit, hbody]; rfl
    exact (h [] (by simp [hlone])).1 rfl
  cases rooted with
  | false => simp [ofElements, hbody, hsplit]
  | true =>
    have hroot : Text.splitOn slash (slash :: Text.join [slash] names) = [] :: names := by
      rw [← List.nil_append (slash :: _), Text.splitOn_append_sep, hsplit]
      rfl
    simpa [ofElements] using hroot

/-! ## Clean paths -/

/-- Whether cleaning leaves elements as they are, latest first: each of them stays when it is put
behind those before it. -/
def Normal (rooted : Bool) : List Text → Prop
  | [] => True
  | element :: kept => pushElement rooted kept element = element :: kept ∧ Normal rooted kept

namespace Normal

variable {rooted : Bool} {kept : List Text}

theorem push (h : Normal rooted kept) (element : Text) :
    Normal rooted (pushElement rooted kept element) := by
  -- Where the element is kept, that it stays is what `Normal` asks of it.
  have hcons (hpush : pushElement rooted kept element = element :: kept) :
      Normal rooted (element :: kept) := ⟨hpush, h⟩
  unfold pushElement at hcons ⊢
  split
  case isTrue => exact h
  case isFalse hstays =>
    rw [if_neg hstays] at hcons
    split
    case isFalse hname => exact hcons (if_neg hname)
    case isTrue hdots =>
      rw [if_pos hdots] at hcons
      cases kept with
      | nil =>
        cases rooted with
        | true => exact h
        | false => exact hcons rfl
      | cons last before =>
        dsimp only at hcons ⊢
        split
        case isTrue hlast => exact hcons (if_pos hlast)
        -- The last name is taken away, and what is left was normal before.
        case isFalse => exact h.2

theorem foldl (h : Normal rooted kept) (pieces : List Text) :
    Normal rooted (pieces.foldl (pushElement rooted) kept) := by
  induction pieces generalizing kept with
  | nil => exact h
  | cons piece pieces ih => exact ih (h.push piece)

/-- Elements that cleaning leaves as they are come back when they are put in order again. -/
theorem foldl_reverse (h : Normal rooted kept) :
    kept.reverse.foldl (pushElement rooted) [] = kept := by
  induction kept with
  | nil => rfl
  | cons element kept ih =>
    rw [List.reverse_cons, List.foldl_append, ih h.2]
    exact h.1

end Normal

theorem normal_elements (path : Text) : Normal (isAbsolute path) (elements path).reverse := by
  have hnil : Normal (isAbsolute path) [] := trivial
  rw [elements, List.reverse_reverse]
  exact hnil.foldl _

/-- The elements of a path made of elements that are clean are those elements. -/
theorem elements_ofElements {rooted : Bool} {names : List Text}
    (h : Normal rooted names.reverse) (hpieces : ∀ name ∈ names, Piece name) :
    elements (ofElements rooted names) = names := by
  have hfold : names.foldl (pushElement rooted) [] = names.reverse := by
    simpa using h.foldl_reverse
  by_cases hne : names = []
  · subst hne
    cases rooted <;> rfl
  · rw [elements, isAbsolute_ofElements rooted hpieces, splitOn_ofElements rooted hne hpieces]
    -- the empty piece at the root is dropped
    cases rooted <;> simp [pushElement, hfold]

/-- Plain names behind the elements of a directory are elements again. -/
theorem elements_ofElements_append (dir : Text) {names : List Text}
    (h : ∀ name ∈ names, Plain name) :
    elements (ofElements (isAbsolute dir) (elements dir ++ names)) = elements dir ++ names := by
  apply elements_ofElements
  · rw [List.reverse_append, ← foldl_pushElement_plain h (isAbsolute dir)]
    exact (normal_elements dir).foldl names
  · exact piece_of_mem_elements_append dir h

theorem isAbsolute_ofElements_append (dir : Text) {names : List Text}
    (h : ∀ name ∈ names, Plain name) :
    isAbsolute (ofElements (isAbsolute dir) (elements dir ++ names)) = isAbsolute dir :=
  isAbsolute_ofElements _ (piece_of_mem_elements_append dir h)

theorem elements_clean (path : Text) : elements (clean path) = elements path := by
  have hnone : ∀ name ∈ ([] : List Text), Plain name := by simp
  simpa [clean] using elements_ofElements_append path hnone

theorem isAbsolute_clean (path : Text) : isAbsolute (clean path) = isAbsolute path :=
  isAbsolute_ofElements _ piece_of_mem_elements

end Path

namespace Store

open AdtCompiler.Path

/-! ## Following paths -/

theorem names_ofElements (rooted : Bool) {elements : List Text} (hne : elements ≠ [])
    (h : ∀ name ∈ elements, Piece name) : names (ofElements rooted elements) = elements := by
  have hfilter : elements.filter (!·.isEmpty) = elements := by
    refine List.filter_eq_self.mpr fun name hname => ?_
    simpa using (h name hname).1
  have hlast : elements.getLast? ≠ some [] := fun hlast =>
    (h [] (List.mem_of_getLast? hlast)).1 rfl
  have hsplit := splitOn_ofElements rooted hne h
  cases rooted with
  | true =>
    have hlast' : ([] :: elements).getLast? ≠ some [] := by
      rwa [List.getLast?_cons_of_ne_nil hne]
    simp [names, hsplit, hfilter, hlast']
  | false => simp [names, hsplit, hfilter, hlast]

/-- One name leads to a directory from which the others are followed; a plain one leads down. -/
theorem follow_cons {s : Store} {here p : Place} {name : Text} {rest : List Text}
    (h : s.follow here (name :: rest) = .ok p) :
    ∃ there, s.follow there rest = .ok p ∧ (Plain name → there = here ++ [name]) := by
  unfold follow at h
  split at h
  · rename_i hdot
    exact ⟨_, h, fun hplain => absurd hdot hplain.ne_dot⟩
  · split at h
    · rename_i hdots
      exact ⟨_, h, fun hplain => absurd hdots hplain.ne_dots⟩
    · refine ⟨here ++ [name], ?_, fun _ => rfl⟩
      -- A file or nothing is found only behind the last name.
      cases rest with
      | nil => grind [follow]
      | cons => grind

/-- Wherever the names before them lead, plain names lead down from there. -/
theorem follow_ends {s : Store} {here p : Place} {front names : List Text}
    (hp : s.follow here (front ++ names) = .ok p) (h : ∀ name ∈ names, Plain name) :
    ∃ above, p = above ++ names := by
  induction front generalizing here with
  | cons name front ih =>
    obtain ⟨there, hthere, -⟩ := follow_cons hp
    exact ih hthere
  | nil =>
    -- Plain names neither stay nor go up, so each of them is added to the place.
    refine ⟨here, ?_⟩
    induction names generalizing here with
    | nil => simpa [follow] using hp.symm
    | cons name names ih =>
      obtain ⟨there, hthere, hdown⟩ := follow_cons hp
      simp only [List.forall_mem_cons] at h
      rw [ih h.2 hthere, hdown h.1, List.append_assoc]
      rfl

theorem follow_of_place {s : Store} {path : Text} {p : Place} (h : s.place path = .ok p) :
    ∃ here, s.follow here (names path) = .ok p := by
  unfold place at h
  split at h
  · cases h
  · split at h
    · cases h
    · exact ⟨_, h⟩

/-- The place of a plain name in a directory ends with the name. -/
theorem place_inside {s : Store} {dir name : Text} {p : Place} (h : Plain name)
    (hp : s.place (inside dir name) = .ok p) : ∃ above, p = above ++ [name] := by
  obtain ⟨here, hfollow⟩ := follow_of_place hp
  -- Whether or not the directory ends with a slash, one stands before the name.
  have hinside : ∃ front, inside dir name = front ++ slash :: name := by
    unfold inside
    split
    · rename_i hlast
      obtain ⟨front, rfl⟩ := List.getLast?_eq_some_iff.mp hlast
      exact ⟨front, by simp⟩
    · exact ⟨dir, by simp⟩
  obtain ⟨front, hfront⟩ := hinside
  have hnames : ∃ before, names (inside dir name) = before ++ [name] := by
    refine ⟨(front.splitOn slash).filter (!·.isEmpty), ?_⟩
    simp [names, hfront, Text.splitOn_append_sep, Text.splitOn_of_not_mem h.not_mem, h.ne_nil]
  obtain ⟨before, hbefore⟩ := hnames
  rw [hbefore] at hfollow
  exact follow_ends hfollow (by simpa using h)

/-- What is put behind a path is at the end of its place. -/
theorem place_append {s : Store} {path ending : Text} {p : Place} (hslash : slash ∉ ending)
    (hlength : 2 < ending.length) (hp : s.place (path ++ ending) = .ok p) :
    ∃ above front, p = above ++ [front ++ ending] := by
  obtain ⟨here, hfollow⟩ := follow_of_place hp
  obtain ⟨before, last, hsplit⟩ : ∃ before last, path.splitOn slash = before ++ [last] := by
    have hne : path.splitOn slash ≠ [] := Text.splitOn_eq slash path ▸ List.splitOn_ne_nil _ _
    exact ⟨_, _, (List.dropLast_append_getLast hne).symm⟩
  have hpieces : ∀ piece ∈ before ++ [last], slash ∉ piece := fun piece hpiece =>
    Text.not_mem_of_mem_splitOn (hsplit ▸ hpiece)
  -- The ending has no slash, so it only makes the last piece longer.
  have hsplit' : (path ++ ending).splitOn slash = before ++ [last ++ ending] := by
    have hpath : path = Text.join [slash] (before ++ [last]) := by
      rw [← hsplit, Text.splitOn_eq, Text.join_eq_intercalate, List.intercalate_splitOn]
    rw [hpath, Text.join_concat, List.append_assoc, ← Text.join_concat]
    refine Text.splitOn_join (fun piece hpiece => ?_) (by simp)
    rcases List.mem_append.mp hpiece with hpiece | hpiece
    · exact hpieces piece (List.mem_append_left _ hpiece)
    · rw [List.mem_singleton.mp hpiece, List.mem_append, not_or]
      exact ⟨hpieces last (by simp), hslash⟩
  -- The last piece is too long for a special name now.
  have hplain : Plain (last ++ ending) := by
    refine plain_of_length ?_ (by rw [List.length_append]; omega)
    rw [List.mem_append, not_or]
    exact ⟨hpieces last (by simp), hslash⟩
  have hnames : names (path ++ ending) = before.filter (!·.isEmpty) ++ [last ++ ending] := by
    simp [names, hsplit', hplain.ne_nil]
  rw [hnames] at hfollow
  obtain ⟨above, rfl⟩ := follow_ends hfollow (by simpa using hplain)
  exact ⟨above, last, rfl⟩

end Store

end AdtCompiler
