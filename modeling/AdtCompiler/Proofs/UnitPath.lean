import AdtCompiler.Proofs.UnitSequence

/-!
# Files of their own

The dots in the name of a unit become separators, and the path is cleaned. Two names might then
lead to one file, or one file might stand where another one needs a directory. Neither happens. An
identifier holds no dot and no separator, so behind the directory for units there are the pieces of
the name as they are, and only the last of them has a dot in it, that of the extension.

## Contents

- `Path.Below`, `Path.Component`: paths compared by their elements
- `FileUnits.name_eq_of_begins`: the pieces of a name do not begin those of another name
- `FileUnits.Apart`: two units that do not get in each other's way
- `FileUnits.OwnFiles`: the same for the units of a document, and what its emission leaves
- `FileUnits.units_in_own_files`
-/

namespace AdtCompiler

open Store (Rewrites)

/-! ## Extensions -/

namespace Text

/-- Whether a text is a dot and then letters. -/
def isDotLetters : Text → Bool
  | [] => false
  | b :: letters => b == 46 && (runes letters).all fun
    | .scalar c => isLetter c
    | .stray _ => false

/-- An ASCII byte behind the dot is a letter. -/
theorem isLetter_of_isDotLetters {t : Text} {b : UInt8} (h : isDotLetters t = true) (hb : b ∈ t)
    (hascii : b < 0x80) (hdot : b ≠ 46) : isLetter b.toNat = true := by
  cases t with
  | nil => cases hb
  | cons first letters =>
    simp only [isDotLetters, Bool.and_eq_true, beq_iff_eq, List.all_eq_true] at h
    rcases List.mem_cons.mp hb with rfl | hb
    · exact absurd h.1 hdot
    · exact h.2 _ (scalar_mem_runes hascii hb)

theorem isLetter_eq_false_of_isDigit {b : UInt8} (h : isDigit b = true) :
    b < 0x80 ∧ isLetter b.toNat = false := by
  simp only [isDigit, Bool.and_eq_true, decide_eq_true_eq, UInt8.le_iff_toNat_le] at h
  have hlow : 48 ≤ b.toNat := h.1
  have hhigh : b.toNat ≤ 57 := h.2
  have hascii : b.toNat < 0x80 := by omega
  refine ⟨UInt8.lt_iff_toNat_lt.mpr hascii, ?_⟩
  simp only [isLetter, if_pos hascii, Bool.or_eq_false_iff, Bool.and_eq_false_iff,
    decide_eq_false_iff_not]
  omega

theorem dot_mem_of_isDotLetters {t : Text} (h : isDotLetters t = true) : 46 ∈ t := by
  cases t with
  | nil => cases h
  | cons first letters =>
    simp only [isDotLetters, Bool.and_eq_true, beq_iff_eq] at h
    simp [h.1]

end Text

/-- A dot and letters are neither a separator nor do they end with a digit. -/
theorem FileUnits.Extension.of_isDotLetters {t : Text} (h : t.isDotLetters = true) :
    Extension t where
  not_mem hmem := by
    have hletter := Text.isLetter_of_isDotLetters h hmem (by decide) (by decide)
    exact absurd hletter (by decide)
  last := by
    have hne : t ≠ [] := List.ne_nil_of_mem (Text.dot_mem_of_isDotLetters h)
    refine ⟨t.dropLast, t.getLast hne, (List.dropLast_append_getLast hne).symm, ?_⟩
    -- a digit would be an ASCII byte that is no letter
    rw [← Bool.not_eq_true]
    intro hdigit
    obtain ⟨hascii, hother⟩ := Text.isLetter_eq_false_of_isDigit hdigit
    have hdot : t.getLast hne ≠ 46 := fun hdot => absurd (hdot ▸ hdigit) (by decide)
    have hletter := Text.isLetter_of_isDotLetters h (List.getLast_mem hne) hascii hdot
    rw [hother] at hletter
    cases hletter

/-! ## Paths compared by their elements -/

namespace Path

/-- A path that leads from a directory down by at least one name that stands for itself. -/
def Below (path dir : Text) : Prop :=
  isAbsolute path = isAbsolute dir ∧
    ∃ names, names ≠ [] ∧ (∀ name ∈ names, Plain name) ∧ elements path = elements dir ++ names

/-- A path that is passed on the way along another one, or is that one. -/
def Component (path other : Text) : Prop :=
  isAbsolute path = isAbsolute other ∧ elements path <+: elements other

end Path

namespace FileUnits

variable {f : FileUnits} {name name' : Text}

/-! ## Two units -/

/-- Names that units may have: identifiers and dotted identifiers. -/
def IsUnitName (name : Text) : Prop :=
  isIdentifier name = true ∨ isDottedIdentifier name = true

/-- The name of a unit is cut at its dots into identifiers, of which there is a last one. -/
theorem IsUnitName.exists_splitOn (h : IsUnitName name) :
    ∃ before last, name.splitOn 46 = before ++ [last] ∧
      ∀ piece ∈ before ++ [last], isIdentifier piece = true := by
  have hne : name.splitOn 46 ≠ [] := Text.splitOn_eq 46 name ▸ List.splitOn_ne_nil _ _
  have hsplit : name.splitOn 46 = (name.splitOn 46).dropLast ++ [(name.splitOn 46).getLast hne] :=
    (List.dropLast_append_getLast hne).symm
  refine ⟨_, _, hsplit, ?_⟩
  rw [← hsplit]
  exact forall_isIdentifier_splitOn_iff.mpr h

/-- The pieces of a name with an extension behind them do not begin those of another name: only the
last piece has the dot of the extension in it. -/
theorem name_eq_of_begins {before before' : List Text} {last last' extension : Text}
    (hdot : 46 ∈ extension) (hsplit : name.splitOn 46 = before ++ [last])
    (hsplit' : name'.splitOn 46 = before' ++ [last'])
    (h' : ∀ piece ∈ before' ++ [last'], isIdentifier piece = true)
    (hbegins : before ++ [last ++ extension] <+: before' ++ [last' ++ extension]) :
    name = name' := by
  rcases List.prefix_concat_iff.mp hbegins with heq | hinner
  · have hbefore : before = before' := List.append_inj_left' heq rfl
    have hlast : last = last' := by simpa using List.append_inj_right' heq rfl
    apply Text.splitOn_injective 46
    rw [hsplit, hsplit', hbefore, hlast]
  · -- the last piece would be one of the identifiers before the other name's last
    have hmem : last ++ extension ∈ before' := hinner.subset (by simp)
    have hnone := dot_not_mem_of_isIdentifier (h' _ (List.mem_append_left _ hmem))
    exact absurd (List.mem_append_right last hdot) hnone

/-- The file of a unit is found under the pieces of its name, which stand for themselves. -/
theorem exists_pieces (hf : f.extension.isDotLetters = true) (h : IsUnitName name) :
    ∃ before last, name.splitOn 46 = before ++ [last] ∧
      (∀ piece ∈ before ++ [last], isIdentifier piece = true) ∧
      (∀ piece ∈ before ++ [last ++ f.extension], Path.Plain piece) ∧
      f.pathFor name = Path.ofElements (Path.isAbsolute f.dir)
        (Path.elements f.dir ++ (before ++ [last ++ f.extension])) := by
  obtain ⟨before, last, hsplit, hpieces⟩ := h.exists_splitOn
  have hslash := (Extension.of_isDotLetters hf).not_mem
  exact ⟨before, last, hsplit, hpieces, plain_pieces hpieces hslash,
    f.pathFor_eq_ofElements hsplit hpieces⟩

/-- Cleaning the path of a unit does not change it. -/
theorem clean_pathFor (hf : f.extension.isDotLetters = true) (h : IsUnitName name) :
    Path.clean (f.pathFor name) = f.pathFor name := by
  obtain ⟨before, last, -, -, hplain, hpath⟩ := exists_pieces hf h
  rw [hpath, Path.clean, Path.isAbsolute_ofElements_append f.dir hplain,
    Path.elements_ofElements_append f.dir hplain]

theorem below_pathFor (hf : f.extension.isDotLetters = true) (h : IsUnitName name) :
    Path.Below (f.pathFor name) (Path.clean f.dir) := by
  obtain ⟨before, last, -, -, hplain, hpath⟩ := exists_pieces hf h
  refine ⟨?_, before ++ [last ++ f.extension], by simp, hplain, ?_⟩
  · rw [hpath, Path.isAbsolute_ofElements_append f.dir hplain, Path.isAbsolute_clean]
  · rw [hpath, Path.elements_ofElements_append f.dir hplain, Path.elements_clean]

/-- No unit is on the way to another one. -/
theorem name_eq_of_component (hf : f.extension.isDotLetters = true) (h : IsUnitName name)
    (h' : IsUnitName name') (hcomponent : Path.Component (f.pathFor name) (f.pathFor name')) :
    name = name' := by
  obtain ⟨before, last, hsplit, -, hplain, hpath⟩ := exists_pieces hf h
  obtain ⟨before', last', hsplit', hpieces', hplain', hpath'⟩ := exists_pieces hf h'
  have hbegins := hcomponent.2
  rw [hpath, hpath', Path.elements_ofElements_append f.dir hplain,
    Path.elements_ofElements_append f.dir hplain', List.prefix_append_right_inj] at hbegins
  exact name_eq_of_begins (Text.dot_mem_of_isDotLetters hf) hsplit hsplit' hpieces' hbegins

/-- Wherever the directory for units leads, a unit leads below it. -/
theorem store_below_pathFor (hf : f.extension.isDotLetters = true) (h : IsUnitName name)
    (s : Store) : s.Below (f.pathFor name) f.dir := by
  obtain ⟨before, last, -, -, hplain, hpath⟩ := exists_pieces hf h
  rw [Store.Below, hpath, s.target_ofElements f.dir hplain]
  exact ⟨List.prefix_append _ _, by simp⟩

/-- Wherever the directory for units leads, no unit leads to a place on the way to another one. -/
theorem name_eq_of_target_begins (hf : f.extension.isDotLetters = true) (h : IsUnitName name)
    (h' : IsUnitName name') {s : Store}
    (hbegins : s.target (f.pathFor name) <+: s.target (f.pathFor name')) : name = name' := by
  obtain ⟨before, last, hsplit, -, hplain, hpath⟩ := exists_pieces hf h
  obtain ⟨before', last', hsplit', hpieces', hplain', hpath'⟩ := exists_pieces hf h'
  rw [hpath, hpath', s.target_ofElements f.dir hplain, s.target_ofElements f.dir hplain',
    List.prefix_append_right_inj] at hbegins
  exact name_eq_of_begins (Text.dot_mem_of_isDotLetters hf) hsplit hsplit' hpieces' hbegins

/-- Two units that do not get in each other's way: their paths are clean, differ and lead below the
directory for units, and neither is a directory on the way to the other. In no store do they lead
to places of which one is above the other. -/
structure Apart (f : FileUnits) (name name' : Text) : Prop where
  clean : ∀ n ∈ [name, name'], Path.clean (f.pathFor n) = f.pathFor n
  below : ∀ n ∈ [name, name'], Path.Below (f.pathFor n) (Path.clean f.dir)
  ne : f.pathFor name ≠ f.pathFor name'
  not_component : ¬ Path.Component (f.pathFor name) (f.pathFor name')
  not_component' : ¬ Path.Component (f.pathFor name') (f.pathFor name)
  places (s : Store) : ¬ s.target (f.pathFor name) <+: s.target (f.pathFor name') ∧
    ¬ s.target (f.pathFor name') <+: s.target (f.pathFor name)

theorem apart_of_ne (hf : f.extension.isDotLetters = true) (h : IsUnitName name)
    (h' : IsUnitName name') (hne : name ≠ name') : f.Apart name name' where
  clean := by
    simp only [List.forall_mem_cons]
    exact ⟨clean_pathFor hf h, clean_pathFor hf h', nofun⟩
  below := by
    simp only [List.forall_mem_cons]
    exact ⟨below_pathFor hf h, below_pathFor hf h', nofun⟩
  ne heq := hne (name_eq_of_component hf h h' ⟨congrArg _ heq, heq ▸ List.prefix_rfl⟩)
  not_component hcomponent := hne (name_eq_of_component hf h h' hcomponent)
  not_component' hcomponent := hne (name_eq_of_component hf h' h hcomponent).symm
  places _ := ⟨fun hbegins => hne (name_eq_of_target_begins hf h h' hbegins),
    fun hbegins => hne (name_eq_of_target_begins hf h' h hbegins).symm⟩

/-! ## The units of a document -/

variable {table : WordTable} {doc : Doc} {d d' : DataType}

theorem isUnitName_qualifiedName (h : doc.Readable table) (hd : d ∈ doc.types) :
    IsUnitName (doc.qualifiedName d) := by
  obtain ⟨before, hsplit, hpieces⟩ := doc.exists_splitOn_qualifiedName h hd
  exact forall_isIdentifier_splitOn_iff.mp (hsplit ▸ hpieces)

theorem name_eq_of_qualifiedName (h : doc.Readable table) (hd : d ∈ doc.types)
    (hd' : d' ∈ doc.types) (heq : doc.qualifiedName d = doc.qualifiedName d') :
    d.name = d'.name := by
  obtain ⟨before, hsplit, -⟩ := doc.exists_splitOn_qualifiedName h hd
  obtain ⟨before', hsplit', -⟩ := doc.exists_splitOn_qualifiedName h hd'
  rw [heq, hsplit'] at hsplit
  simpa using (List.append_inj_right' hsplit rfl).symm

/-- What the emission of a document leaves: nothing but the files of the units is rewritten, and
when all is done, each of them holds the text of its own unit. -/
def EmitsApart (f : FileUnits) (doc : Doc) : Prop :=
  ∀ (backend : Backend) (version : Text) (w : World), w.store.Numbered →
    ∃ ending w', (doc.emit backend version f.factory : StateM World _).run w = (ending, w') ∧
      Rewrites (fun q text => ∃ d ∈ doc.types, q = w.store.target (f.unitPath doc d) ∧
        text = doc.unitText backend version d) w.store w'.store ∧
      (ending = .done → ∀ d ∈ doc.types, w'.store.held (w.store.target (f.unitPath doc d)) =
        some (.file (doc.unitText backend version d)))

theorem emitsApart (hf : Extension f.extension) (h : doc.Readable table)
    (hapart : doc.NamesApart) : f.EmitsApart doc := by
  intro backend version w hs
  obtain ⟨ending, w', hrun, hrewrites, hloads⟩ := Doc.run_emit hf h hapart hs backend version
  -- the emission does not change where paths lead
  have htarget : ∀ {path : Text} {q : Place}, w'.store.place path = .ok q →
      q = w.store.target path := fun hq =>
    (Store.eq_target_of_place hq).trans (Store.target_congr hrewrites.workingDir _)
  refine ⟨ending, w', hrun, hrewrites.mono ?_, fun hdone d hd => ?_⟩
  · rintro q text ⟨d, hd, hq, rfl⟩
    exact ⟨d, hd, htarget hq, rfl⟩
  · obtain ⟨q, hq, hheld⟩ := Store.load_eq_ok.mp (hloads hdone d hd)
    exact htarget hq ▸ hheld

/-- The units of a document have files of their own below the directory for units. -/
structure OwnFiles (f : FileUnits) (doc : Doc) : Prop where
  names : ∀ d ∈ doc.types, IsUnitName (doc.qualifiedName d)
  below : ∀ d ∈ doc.types, Path.Below (f.unitPath doc d) (Path.clean f.dir) ∧
    ∀ s : Store, s.Below (f.unitPath doc d) f.dir
  apart : doc.types.Pairwise fun d d' => f.Apart (doc.qualifiedName d) (doc.qualifiedName d')
  written : f.EmitsApart doc

theorem ownFiles (hf : f.extension.isDotLetters = true) (h : doc.Readable table)
    (hapart : doc.NamesApart) : f.OwnFiles doc where
  names _ hd := isUnitName_qualifiedName h hd
  below _ hd := ⟨below_pathFor hf (isUnitName_qualifiedName h hd),
    store_below_pathFor hf (isUnitName_qualifiedName h hd)⟩
  apart := by
    have hnames := List.pairwise_map.mp hapart.types_nodup
    refine hnames.imp_of_mem fun hd hd' hne => ?_
    refine apart_of_ne hf (isUnitName_qualifiedName h hd) (isUnitName_qualifiedName h hd') ?_
    exact fun heq => hne (name_eq_of_qualifiedName h hd hd' heq)
  written := emitsApart (.of_isDotLetters hf) h hapart

/-- Every unit has a file of its own below the directory for units, whatever the directory: units
of different names do not get in each other's way, and neither do the units of a document that was
read and passes the check. -/
theorem units_in_own_files (f : FileUnits) (hf : f.extension.isDotLetters = true) :
    (∀ name name', IsUnitName name → IsUnitName name' → name ≠ name' → f.Apart name name') ∧
      ∀ (file : SourceFile) (table : WordTable) (doc : Doc) (rules : List CheckRule),
        file.parse table = .ok doc → (doc.check rules).isEmpty = true → f.OwnFiles doc := by
  refine ⟨fun name name' => apart_of_ne hf, fun file table doc rules hparse hcheck => ?_⟩
  exact ownFiles hf (SourceFile.readable_of_parse hparse) (Doc.check_isEmpty_iff.mp hcheck).1

/-- Units in a directory whose path is not clean and leads up. -/
def besideUnits : FileUnits := ⟨"a/../..//b/.", ".java"⟩

/-- A source of two data types in a package. -/
def twoTypes : SourceFile :=
  { id := 0, path := "two.adt", content := "package x.java\nA = A\nB = C | D\n", flags := 0 }

/-- A unit whose name ends with the letters of the extension is in a directory beside the file of
the other one, and the two data types of a source are two files in that directory. -/
theorem units_in_own_files_beside :
    besideUnits.pathFor "x" = "../b/x.java" ∧ besideUnits.pathFor "x.java" = "../b/x/java.java" ∧
      besideUnits.Apart "x" "x.java" ∧
      ∃ doc, twoTypes.parse {} = .ok doc ∧
        doc.types.map (besideUnits.unitPath doc) = ["../b/x/java/A.java", "../b/x/java/B.java"] ∧
        besideUnits.OwnFiles doc := by
  have hown := units_in_own_files besideUnits (by decide)
  have hx : IsUnitName "x" := .inl (by decide)
  have hdotted : IsUnitName "x.java" := .inr (by decide)
  refine ⟨by decide, by decide, hown.1 "x" "x.java" hx hdotted (by decide), ?_⟩
  have hread : twoTypes.parse {} = .ok ⟨"two.adt", "x.java", [],
      [⟨"A", [], [⟨"A", []⟩]⟩, ⟨"B", [], [⟨"C", []⟩, ⟨"D", []⟩]⟩]⟩ := rfl
  exact ⟨_, hread, by decide, hown.2 twoTypes {} _ [] hread (by decide)⟩

end FileUnits

end AdtCompiler
