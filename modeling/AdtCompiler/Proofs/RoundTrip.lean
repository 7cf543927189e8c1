import AdtCompiler.Proofs.Readable
import AdtCompiler.Proofs.Rendering
import AdtCompiler.Proofs.StructuralEquality
import AdtCompiler.Syntax.Printer
import Mathlib.Algebra.Group.Nat.Defs

/-!
# Reading what was printed

A document is readable when its names are names, its primitive types exist and every data type has
a constructor. What is read from a source is readable, and reading the text of a readable document
gives it back. A source has its limit, though: it is read only if offsets can count its bytes. A
text may be longer than the source that it was read from, and then it may be too long.

## Contents

- the text of a readable document renders a derivation of it
- `SourceFile.parse_of_renders`: a text that renders a document is read as this document
- `Doc.text_round_trip`
- `Doc.text_longer_than_sources`: a document that was read, with a text that is too long
-/

namespace AdtCompiler

open Token Grammar

/-! ## Words -/

variable {table : WordTable}

theorem renders_ident {word : Text} (h : table.IsName word) :
    Renders table breaksWord (.one .ident) (.ident, word) word := by
  have hkind : table.classify word = .ident := WordTable.classify_eq_ident_iff.mpr h
  have hword : Renders table breaksWord (.one .ident) (table.classify word, word) word :=
    .word (by simp [hkind]) h.isPath.ne_nil h.isPath.isWordByte
  rwa [hkind] at hword

theorem renders_name {word : Text} (h : table.IsPath word) :
    Renders table breaksWord (.ref .name) word word := by
  rcases WordTable.classify_mem_iff.mpr h with hkind | hkind
  · have hword : Renders table breaksWord (.one .ident) (table.classify word, word) word :=
      .word (by simp [hkind]) h.ne_nil h.isWordByte
    exact Renders.ref (n := .name) hword.left rfl
  · have hword : Renders table breaksWord (.one .dottedIdent) (table.classify word, word) word :=
      .word (by simp [hkind]) h.ne_nil h.isWordByte
    exact Renders.ref (n := .name) hword.right rfl

/-- A keyword is one whatever is reserved. -/
theorem renders_keyword (entry : Text × TokenKind) (hentry : entry ∈ keywords)
    {kinds : List TokenKind} (hmem : entry.2 ∈ kinds) :
    Renders table breaksWord (.token kinds) (entry.2, entry.1) entry.1 := by
  have hfound : ∀ entry ∈ keywords, keywords.find? (·.1 == entry.1) = some entry := by decide
  have hbytes : ∀ entry ∈ keywords, entry.1 ≠ [] ∧ entry.1.all isWordByte = true := by decide
  have hkind : table.classify entry.1 = entry.2 := by
    simp only [WordTable.classify, WordTable.lookup?, hfound entry hentry]
  have hword : Renders table breaksWord (.token kinds) (table.classify entry.1, entry.1) entry.1 :=
    .word (by rwa [hkind]) (hbytes entry hentry).1
      (List.all_eq_true.mp (hbytes entry hentry).2)
  rwa [hkind] at hword

/-! ## Texts of types -/

theorem Ty.argsText_eq_join (types : List Ty) :
    Ty.argsText types = Text.join ", " (types.map Ty.text) := by
  induction types with
  | nil => rfl
  | cons t types ih =>
    cases types with
    | nil => rfl
    | cons u types => simp only [Ty.argsText, ih, List.map_cons, Text.join]

theorem Ty.text_cls (name : Text) (args : List Ty) :
    (Ty.cls name args).text = name ++ enclosedText 60 62 (args.map Ty.text) := by
  have hopening : ("<" : Text) = [60] := by decide
  have hclosing : (">" : Text) = [62] := by decide
  cases args with
  | nil => simp [Ty.text, enclosedText]
  | cons t args =>
    simp [Ty.text, enclosedText, Ty.argsText_eq_join, hopening, hclosing]

/-- The name of a primitive type is its keyword. -/
theorem renders_primitive (table : WordTable) {kind : Primitive} (h : kind ∈ Primitive.listed) :
    ∃ keyword, primitiveOf keyword.1 = kind ∧
      Renders table breaksWord .primitive keyword (kind.name : Text) := by
  have hlisted : ∀ kind ∈ Primitive.listed, kind ∈ primitiveKeywords.map (·.2) := by decide
  have hkeyword : ∀ entry ∈ primitiveKeywords,
      ((entry.2.name : Text), entry.1) ∈ keywords ∧ primitiveOf entry.1 = entry.2 := by decide
  obtain ⟨entry, hentry, rfl⟩ := List.mem_map.mp (hlisted kind h)
  obtain ⟨hword, hprimitive⟩ := hkeyword entry hentry
  exact ⟨_, hprimitive, renders_keyword _ hword (List.mem_map_of_mem hentry)⟩

mutual

/-- The text of a type renders its element and as many pairs of brackets as it is an array. -/
theorem renders_type_parts : (t : Ty) → t.Readable table →
    ∃ (element : Value element) (brackets : List ((TokenKind × Text) × (TokenKind × Text))),
      act .type (element, brackets) = t ∧
      Renders table breaksWord (rule .type) (element, brackets) t.text
  | .prim kind, h => by
    obtain ⟨keyword, rfl, hrenders⟩ := renders_primitive table h
    refine ⟨.inl keyword, [], rfl, ?_⟩
    exact hrenders.left.seq_nil
  | .cls name args, h => by
    have hopening : punctuation? 60 = some .lAngle := by decide
    have hclosing : punctuation? 62 = some .rAngle := by decide
    obtain ⟨v, hv, hrenders⟩ :=
      renders_enclosed breaksWord hopening hclosing args (renders_types args h.2)
    refine ⟨.inr ((.ident, name), v), [], ?_, ?_⟩
    · have hargs : enclosedItems v = args := hv.trans (List.map_id' args)
      exact congrArg (Ty.cls name) hargs
    · rw [Ty.text_cls]
      have helement := Renders.seq (renders_ident h.1) hrenders fun rest hrest =>
        breaksWord_enclosedText (by decide) 62 _ rest hrest
      exact helement.right.seq_nil
  | .array elem, h => by
    -- the grammar lists brackets from the inside out, so an array adds a pair at the end
    obtain ⟨element, brackets, hact, hrenders⟩ := renders_type_parts elem h
    refine ⟨element, brackets ++ [((.lBracket, [91]), (.rBracket, [93]))], ?_, ?_⟩
    · rw [← hact]
      exact List.foldl_append
    · have hpair : Renders table anyRest (.seq (.one .lBracket) (.one .rBracket))
          ((.lBracket, [91]), (.rBracket, [93])) ([91] ++ [93]) :=
        Renders.seq (Renders.mark (by simp) (by decide)) (Renders.mark (by simp) (by decide))
          fun _ _ => trivial
      exact Renders.snoc hrenders (hpair.weaken fun _ _ => trivial) fun rest _ =>
        breaksWord_cons (by decide) _
  | .absent, h => h.elim

theorem renders_types : (types : List Ty) → Ty.AllReadable table types →
    ∀ t ∈ types, Renders table breaksWord (.ref .type) t t.text
  | [], _ => by simp
  | t :: types, h => by
    obtain ⟨element, brackets, hact, hrenders⟩ := renders_type_parts t h.1
    intro u hu
    rcases List.mem_cons.mp hu with rfl | hu
    · exact Renders.ref hrenders hact
    · exact renders_types types h.2 u hu

end

theorem renders_type {t : Ty} (h : t.Readable table) :
    Renders table breaksWord (.ref .type) t t.text :=
  renders_types [t] ⟨h, trivial⟩ t List.mem_cons_self

/-! ## Texts of declarations -/

theorem renders_arg {a : Arg} (h : a.Readable table) :
    Renders table breaksWord (.ref .arg) a a.text := by
  have htext : a.text = (a.type.text ++ [32]) ++ a.name := by
    rw [Arg.text]
    rfl
  rw [htext]
  have htype := (renders_type h.type).blanks_behind (u := [32]) (by decide) (by decide)
  exact Renders.ref (n := .arg) (htype.seq (renders_ident h.name) fun _ _ => trivial) rfl

theorem Constructor.text_eq (c : Constructor) :
    c.text = c.name ++ enclosedText 40 41 (c.args.map Arg.text) := by
  have hopening : ("(" : Text) = [40] := by decide
  have hclosing : (")" : Text) = [41] := by decide
  cases hargs : c.args with
  | nil => simp [Constructor.text, hargs, enclosedText]
  | cons a args => simp [Constructor.text, hargs, enclosedText, hopening, hclosing]

theorem renders_ctor {c : Constructor} (h : c.Readable table) :
    Renders table breaksWord (.ref .ctor) c c.text := by
  have hopening : punctuation? 40 = some .lParen := by decide
  have hclosing : punctuation? 41 = some .rParen := by decide
  obtain ⟨v, hv, hrenders⟩ := renders_enclosed breaksWord hopening hclosing c.args
    fun a ha => renders_arg (h.args a ha)
  have hargs : enclosedItems v = c.args := hv.trans (List.map_id' c.args)
  have hwhole := (renders_ident h.name).seq hrenders fun rest hrest =>
    breaksWord_enclosedText (by decide) 41 _ rest hrest
  rw [Constructor.text_eq]
  exact Renders.ref (n := .ctor) hwhole (congrArg (Constructor.mk c.name) hargs)

theorem DataType.text_eq (d : DataType) {c : Constructor} {cs : List Constructor}
    (h : d.constructors = c :: cs) :
    d.text = d.name ++ (enclosedText 60 62 d.params ++ (([32] ++ [61]) ++
      ((([10, 32, 32, 32, 32] ++ c.text) ++ [10]) ++
        cs.flatMap fun c => ([32, 32] ++ [124]) ++ (([32] ++ c.text) ++ [10])))) := by
  have hopening : ("<" : Text) = [60] := by decide
  have hclosing : (">" : Text) = [62] := by decide
  have hequals : (" =\n" : Text) = [32, 61, 10] := by decide
  have hindent : ("    " : Text) = [32, 32, 32, 32] := by decide
  have hbar : ("  | " : Text) = [32, 32, 124, 32] := by decide
  have hline : ("\n" : Text) = [10] := by decide
  simp [DataType.text, h, enclosedText, Constructor.restText, hopening, hclosing, hequals, hindent,
    hbar, hline]

theorem map_snd_map_pair {α β : Type} (b : β) (xs : List α) :
    (xs.map fun x => (b, x)).map (·.2) = xs := by
  rw [List.map_map]
  exact List.map_id' xs

/-- A constructor on its line. -/
theorem renders_ctor_line {c : Constructor} (h : c.Readable table) {indent : Text}
    (hindent : indent.all isBlank = true) :
    Renders table anyRest (.ref .ctor) c ((indent ++ c.text) ++ [10]) :=
  ((renders_ctor h).blanks_before hindent).blanks_behind (by decide) (by decide)

theorem breaksWord_blanks {gap rest : Text} (hgap : gap.all isBlank = true)
    (hrest : breaksWord rest) : breaksWord (gap ++ rest) := by
  cases gap with
  | nil => exact hrest
  | cons b gap =>
    have hb : isBlank b = true := List.all_eq_true.mp hgap b List.mem_cons_self
    exact breaksWord_cons (by simp [isWordByte, hb]) _

/-- A data type is rendered whatever blanks stand around its equals sign. -/
theorem renders_dataType_spaced {d : DataType} (h : d.Readable table) {c : Constructor}
    {cs : List Constructor} (hconstructors : d.constructors = c :: cs) {gap indent : Text}
    (hgap : gap.all isBlank = true) (hindent : indent.all isBlank = true) :
    Renders table anyRest (.ref .dataType) d
      (d.name ++ (enclosedText 60 62 d.params ++ ((gap ++ [61]) ++ (((indent ++ c.text) ++ [10]) ++
        cs.flatMap fun c => ([32, 32] ++ [124]) ++ (([32] ++ c.text) ++ [10]))))) := by
  have hctor : ∀ c' ∈ c :: cs, c'.Readable table := hconstructors ▸ h.constructors
  have hopening : punctuation? 60 = some .lAngle := by decide
  have hclosing : punctuation? 62 = some .rAngle := by decide
  obtain ⟨v, hv, hparams⟩ := renders_enclosed anyRest hopening hclosing d.params
    fun p hp => renders_ident (h.params p hp)
  rw [List.map_id'] at hparams
  have hequals : Renders table anyRest (.one .equals) (.equals, [61]) (gap ++ [61]) :=
    (Renders.mark (by simp) (by decide)).blanks_before hgap
  have hmore : Renders table anyRest (.many (.seq (.one .bar) (.ref .ctor)))
      (cs.map fun c => ((.bar, [124]), c))
      (cs.flatMap fun c => ([32, 32] ++ [124]) ++ (([32] ++ c.text) ++ [10])) := by
    refine Renders.flatMap cs (fun c hc => ?_) fun _ _ _ => trivial
    have hbar : Renders table anyRest (.one .bar) (.bar, [124]) ([32, 32] ++ [124]) :=
      (Renders.mark (by simp) (by decide)).blanks_before (by decide)
    exact hbar.seq (renders_ctor_line (hctor c (List.mem_cons_of_mem _ hc)) (by decide))
      fun _ _ => trivial
  have hfirst : Renders table anyRest (.ref .ctor) c ((indent ++ c.text) ++ [10]) :=
    renders_ctor_line (hctor c List.mem_cons_self) hindent
  have hlist := hequals.seq (hfirst.seq hmore fun _ _ => trivial) fun _ _ => trivial
  -- without parameters the name is followed by the blanks or by the equals sign
  have hwhole := (renders_ident h.name).seq (hparams.seq hlist fun _ _ => trivial)
    fun rest _ => by
      rw [List.append_assoc, List.append_assoc, List.append_assoc]
      exact breaksWord_enclosedText (by decide) 62 _ _
        (breaksWord_blanks hgap (breaksWord_cons (by decide) _))
  have hvalue : act .dataType ((.ident, d.name), v, (.equals, [61]), c,
      cs.map fun c => ((.bar, [124]), c)) = d := by
    have hnames : List.map Prod.snd (enclosedItems v) = d.params :=
      (congrArg (List.map Prod.snd) hv).trans (map_snd_map_pair TokenKind.ident d.params)
    have hitems : itemsOf (c, cs.map fun c => ((TokenKind.bar, ([124] : Text)), c)) =
        d.constructors := by
      rw [hconstructors, itemsOf, map_snd_map_pair]
    exact congr (congrArg (DataType.mk d.name) hnames) hitems
  exact Renders.ref (n := .dataType) hwhole hvalue

theorem renders_dataType {d : DataType} (h : d.Readable table) :
    Renders table anyRest (.ref .dataType) d d.text := by
  obtain ⟨c, cs, hconstructors⟩ := List.exists_cons_of_ne_nil h.nonempty
  rw [DataType.text_eq d hconstructors]
  exact renders_dataType_spaced h hconstructors (by decide) (by decide)

/-! ## Texts of documents -/

theorem renders_package {package : Text} (h : package = [] ∨ table.IsPath package) :
    ∃ v : Option ((TokenKind × Text) × Text), (v.map (·.2)).getD [] = package ∧
      Renders table anyRest (.opt (.seq (.one .kwPackage) (.ref .name))) v
        (if package.isEmpty then [] else "package " ++ package ++ "\n\n" : Text) := by
  rcases h with rfl | h
  · exact ⟨none, rfl, Renders.none⟩
  · have hkeyword : Renders table breaksWord (.one .kwPackage) (.kwPackage, ("package" : Text))
        ("package" : Text) :=
      renders_keyword ("package", .kwPackage) (by simp [keywords]) (by simp)
    have hclause := (hkeyword.blanks_behind (u := [32]) (by decide) (by decide)).seq
      ((renders_name h).blanks_behind (u := [10, 10]) (by decide) (by decide)) fun _ _ => trivial
    refine ⟨some ((.kwPackage, "package"), package), rfl, ?_⟩
    have htext : (if package.isEmpty then [] else "package " ++ package ++ "\n\n" : Text) =
        (("package" : Text) ++ [32]) ++ (package ++ [10, 10]) := by
      have hopening : ("package " : Text) = ("package" : Text) ++ [32] := by decide
      have hline : ("\n\n" : Text) = [10, 10] := by decide
      simp [h.ne_nil, hopening, hline]
    rw [htext]
    exact Renders.some hclause

theorem renders_imports {imports : List Text} (h : ∀ i ∈ imports, table.IsPath i) :
    ∃ v : List ((TokenKind × Text) × Text), v.map (·.2) = imports ∧
      Renders table anyRest (.many (.seq (.one .kwImport) (.ref .name))) v
        (if imports.isEmpty then []
          else (imports.flatMap fun i => ("import " ++ i ++ "\n" : Text)) ++ "\n" : Text) := by
  have hclauses : Renders table anyRest (.many (.seq (.one .kwImport) (.ref .name)))
      (imports.map fun i => ((.kwImport, ("import" : Text)), i))
      (imports.flatMap fun i => (("import" : Text) ++ [32]) ++ (i ++ [10])) := by
    refine Renders.flatMap imports (fun i hi => ?_) fun _ _ _ => trivial
    have hkeyword : Renders table breaksWord (.one .kwImport) (.kwImport, ("import" : Text))
        ("import" : Text) :=
      renders_keyword ("import", .kwImport) (by simp [keywords]) (by simp)
    exact (hkeyword.blanks_behind (by decide) (by decide)).seq
      ((renders_name (h i hi)).blanks_behind (by decide) (by decide)) fun _ _ => trivial
  refine ⟨imports.map fun i => ((.kwImport, "import"), i), map_snd_map_pair _ _, ?_⟩
  have hopening : ("import " : Text) = ("import" : Text) ++ [32] := by decide
  have hline : ("\n" : Text) = [10] := by decide
  cases imports with
  | nil => exact Renders.nil
  | cons i imports =>
    have htext : (if (i :: imports).isEmpty then []
          else ((i :: imports).flatMap fun i => ("import " ++ i ++ "\n" : Text)) ++ "\n" : Text) =
        ((i :: imports).flatMap fun i => (("import" : Text) ++ [32]) ++ (i ++ [10])) ++ [10] := by
      simp [hopening, hline]
    rw [htext]
    have hclauses' : Renders table breaksWord _ _ _ := hclauses.weaken fun _ _ => trivial
    exact hclauses'.blanks_behind (by decide) (by decide)

/-- The text of a readable document renders it. -/
theorem renders_doc {doc : Doc} (h : doc.Readable table) :
    ∃ v : Value docBody, (∀ source last, act .doc (v, last) source = { doc with source }) ∧
      Renders table anyRest docBody v doc.text := by
  obtain ⟨package, hpackage, hclause⟩ := renders_package h.package
  obtain ⟨imports, himports, hclauses⟩ := renders_imports h.imports
  have htypes : Renders table anyRest (.many (.ref .dataType)) (doc.types.map fun d => d)
      (doc.types.flatMap DataType.text) :=
    Renders.flatMap doc.types (fun d hd => renders_dataType (h.types d hd)) fun _ _ _ => trivial
  refine ⟨(package, imports, doc.types.map fun d => d), fun source last => ?_, ?_⟩
  · exact congr (congr (congrArg (Doc.mk source) hpackage) himports) (List.map_id' doc.types)
  · rw [Doc.text, List.append_assoc]
    exact hclause.seq (hclauses.seq htypes fun _ _ => trivial) fun _ _ => trivial

/-! ## The round trip -/

/-- A text that renders a document is read as this document, if it is not too long. -/
theorem SourceFile.parse_of_renders {file : SourceFile} {v : Value docBody}
    (hsize : file.content.length < UInt32.size)
    (h : Renders table anyRest docBody v file.content) :
    file.parse table = .ok (act .doc (v, (.eof, Token.eofText)) file.path) := by
  obtain ⟨d, rfl, hlexes⟩ := h
  -- nothing follows the text, so its leaves are all the tokens of the file
  obtain ⟨tokens, htokens, hscan⟩ := hlexes [] trivial file [] (.stop (.nil []))
  rw [List.append_nil, List.append_nil] at hscan
  refine SourceFile.parse_eq_ok_iff.mpr ⟨hsize, d.closed Token.eofText, ?_, rfl⟩
  rw [hscan.lexed_eq, List.map_append, htokens]
  rfl

/-- Reading the text of a readable document gives it back, under the name of the new source. -/
theorem SourceFile.parse_text {file : SourceFile} {doc : Doc} (h : doc.Readable table)
    (hsize : doc.text.length < UInt32.size) (hcontent : file.content = doc.text) :
    file.parse table = .ok { doc with source := file.path } := by
  obtain ⟨v, hv, hrenders⟩ := renders_doc h
  rw [← hcontent] at hsize hrenders
  exact (parse_of_renders hsize hrenders).trans (congrArg Except.ok (hv _ _))

/-- Where a document came from does not matter for equality. -/
theorem Doc.equal_of_source (doc : Doc) (source : Text) :
    ({ doc with source } : Doc).equal doc = true :=
  (Doc.equal_iff _ doc).mpr ⟨rfl, rfl, rfl⟩

/-- **Printing and reading are inverse** as far as sources reach. Every readable document can be
printed, and reading its text as it stands gives an equal document, if offsets can count the bytes
of the text; a longer text is not read. What is read from a source is readable, so this holds of its
text. -/
theorem Doc.text_round_trip (table : WordTable) :
    (∀ doc : Doc, doc.Readable table → doc.text? = some doc.text) ∧
    (∀ (doc : Doc) (file : SourceFile), doc.Readable table → doc.text.length < UInt32.size →
      file.content = doc.text → ∃ doc', file.parse table = .ok doc' ∧ doc'.equal doc = true) ∧
    (∀ (doc : Doc) (file : SourceFile), UInt32.size ≤ doc.text.length →
      file.content = doc.text → file.parse table = .error .tooLong) ∧
    (∀ (file : SourceFile) (doc : Doc), file.parse table = .ok doc → doc.Readable table) ∧
    (∀ doc : Doc, doc.Readable table → doc.text.length < UInt32.size →
      ∃ file : SourceFile, file.parse table = .ok doc) ∧
    (∀ (file file' : SourceFile) (doc : Doc), file.parse table = .ok doc →
      doc.text.length < UInt32.size → file'.content = doc.text →
      ∃ doc', file'.parse table = .ok doc' ∧ doc'.equal doc = true) := by
  have hprinted : ∀ (doc : Doc) (file : SourceFile), doc.Readable table →
      doc.text.length < UInt32.size → file.content = doc.text →
      ∃ doc', file.parse table = .ok doc' ∧ doc'.equal doc = true := by
    intro doc file h hsize hcontent
    exact ⟨_, SourceFile.parse_text h hsize hcontent, doc.equal_of_source file.path⟩
  refine ⟨fun doc h => Doc.written?_of_complete h.isComplete _, hprinted,
    fun doc file hlong hcontent => ?_, fun file doc => SourceFile.readable_of_parse,
    fun doc h hsize => ?_,
    fun file file' doc h => hprinted doc file' (SourceFile.readable_of_parse h)⟩
  · rw [← hcontent] at hlong
    exact SourceFile.parse_of_long hlong table
  · refine ⟨{ id := 0, path := doc.source, content := doc.text, flags := 0 }, ?_⟩
    exact SourceFile.parse_text h hsize rfl

/-- A document with a package, an import, type parameters and nested types. -/
def treeDoc : Doc where
  source := "tree.adt"
  package := "forest.data"
  imports := ["java.util.List", "Size"]
  types := [{
    name := "Tree"
    params := ["A", "B"]
    constructors := [⟨"Leaf", []⟩,
      ⟨"Node", [⟨.array (.array (.cls "Tree" [.cls "A" [], .array (.prim .int)])), "children"⟩,
        ⟨.prim .long, "size"⟩]⟩] }]

/-- It is readable where `class` is reserved, and its text gives it back. -/
theorem Doc.text_round_trip_tree :
    treeDoc.Readable ⟨["class"]⟩ ∧ treeDoc.text.length < UInt32.size ∧ ∃ doc',
      ({ id := 0, path := "copy.adt", content := treeDoc.text, flags := 0 } : SourceFile).parse
        ⟨["class"]⟩ = .ok doc' ∧ doc'.equal treeDoc = true := by
  have hreadable : treeDoc.Readable ⟨["class"]⟩ := by decide
  have hsize : treeDoc.text.length < UInt32.size := by decide +kernel
  exact ⟨hreadable, hsize, (Doc.text_round_trip ⟨["class"]⟩).2.1 treeDoc _ hreadable hsize rfl⟩

/-! ## Beyond the limits -/

/-- A data type that its text writes with ten bytes, and a source with four. -/
def denseType : DataType := ⟨"A", [], [⟨"B", []⟩]⟩

/-- A document with many such data types. -/
def denseDoc (n : Nat) : Doc := ⟨"dense.adt", [], [], List.replicate n denseType⟩

/-- The source that declares them with no more bytes than needed. -/
def denseFile (n : Nat) : SourceFile where
  id := 0
  path := "dense.adt"
  content := (List.replicate n denseType).flatMap fun _ => "A=B\n"
  flags := 0

theorem length_content_denseFile (n : Nat) : (denseFile n).content.length = n * 4 := by
  simp only [denseFile, List.length_flatMap, List.map_replicate, List.sum_replicate_nat]
  rfl

theorem length_text_denseDoc (n : Nat) : (denseDoc n).text.length = n * 10 := by
  have htext : (denseDoc n).text = (List.replicate n denseType).flatMap DataType.text := rfl
  rw [htext, List.length_flatMap, List.map_replicate, List.sum_replicate_nat]
  rfl

theorem parse_denseFile {n : Nat} (hsize : n * 4 < UInt32.size) :
    (denseFile n).parse {} = .ok (denseDoc n) := by
  have hreadable : denseType.Readable {} := by decide
  have htype : Renders {} anyRest (.ref .dataType) denseType ("A=B\n" : Text) :=
    @renders_dataType_spaced {} denseType hreadable ⟨"B", []⟩ [] rfl [] [] rfl rfl
  have htypes : Renders {} anyRest (.many (.ref .dataType))
      ((List.replicate n denseType).map fun d => d) (denseFile n).content := by
    refine Renders.flatMap _ (fun d hd => ?_) fun _ _ _ => trivial
    rw [List.eq_of_mem_replicate hd]
    exact htype
  have hpackage : Renders {} anyRest (.opt (.seq (.one .kwPackage) (.ref .name))) none [] :=
    Renders.none
  have himports : Renders {} anyRest (.many (.seq (.one .kwImport) (.ref .name))) [] [] :=
    Renders.nil
  have hdoc : Renders {} anyRest docBody (none, [], (List.replicate n denseType).map fun d => d)
      (denseFile n).content :=
    hpackage.seq (himports.seq htypes fun _ _ => trivial) fun _ _ => trivial
  rw [← length_content_denseFile] at hsize
  refine (SourceFile.parse_of_renders hsize hdoc).trans ?_
  exact congrArg (fun types => Except.ok (Doc.mk "dense.adt" [] [] types)) (List.map_id' _)

/-- A source of half the bytes that offsets can count declares a document whose text has more bytes
than they can count, so the text of what was read is not read again. -/
theorem Doc.text_longer_than_sources :
    (denseFile (2 ^ 29)).content.length = 2 ^ 31 ∧
      (denseFile (2 ^ 29)).parse {} = .ok (denseDoc (2 ^ 29)) ∧
      (denseDoc (2 ^ 29)).Readable {} ∧
      UInt32.size ≤ (denseDoc (2 ^ 29)).text.length ∧
      ∀ file : SourceFile, file.content = (denseDoc (2 ^ 29)).text →
        ¬ ∃ doc, file.parse {} = .ok doc := by
  have hread : (denseFile (2 ^ 29)).parse {} = .ok (denseDoc (2 ^ 29)) :=
    parse_denseFile (by decide)
  have hlong : UInt32.size ≤ (denseDoc (2 ^ 29)).text.length := by
    rw [length_text_denseDoc]
    decide
  refine ⟨length_content_denseFile _, hread, SourceFile.readable_of_parse hread, hlong,
    fun file hcontent => ?_⟩
  rw [← hcontent] at hlong
  simp [SourceFile.parse_of_long hlong]

end AdtCompiler
