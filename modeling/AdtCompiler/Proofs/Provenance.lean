import AdtCompiler.Backend.Basic
import AdtCompiler.Proofs.Path
import AdtCompiler.Proofs.Readable

/-!
# The provenance stays in its comment

Every generated unit starts with a header that holds a block comment: where the unit comes from, and
the document as it was read. The comment ends at the first `*/` behind its opening. A name holds
neither of the two bytes, and the rest of a printed document does not either. So nothing of a source
gets out of the comment, as long as the name of the source and the version do not end it.

## Contents

- `Doc.Readable.calm_text`: a printed document has neither `*` nor `/`
- `Doc.not_closes_provenance`: no comment ends within a provenance
- `uncommented`: what is left of a text without its comments
- `provenance_enclosed`
-/

namespace AdtCompiler

open Token
open Source (newline)

/-! ## Calm texts -/

/-- A text that can neither open nor end a comment. -/
structure Calm (t : Text) : Prop where
  star : star ∉ t
  slash : slash ∉ t

instance (t : Text) : Decidable (Calm t) :=
  decidable_of_iff (star ∉ t ∧ slash ∉ t) ⟨fun h => ⟨h.1, h.2⟩, fun h => ⟨h.star, h.slash⟩⟩

namespace Calm

variable {s t : Text}

theorem iff_forall : Calm t ↔ ∀ b ∈ t, b ≠ Token.star ∧ b ≠ Token.slash := by
  refine ⟨fun h b hb => ⟨?_, ?_⟩, fun h => ⟨fun hb => (h _ hb).1 rfl, fun hb => (h _ hb).2 rfl⟩⟩
  · rintro rfl
    exact h.star hb
  · rintro rfl
    exact h.slash hb

@[simp] theorem append_iff : Calm (s ++ t) ↔ Calm s ∧ Calm t := by
  simp only [iff_forall, List.forall_mem_append]

@[simp] theorem nil : Calm [] := by decide

theorem flatMap {α : Type} {xs : List α} {f : α → Text} (h : ∀ x ∈ xs, Calm (f x)) :
    Calm (xs.flatMap f) := by
  simp only [iff_forall, List.mem_flatMap] at h ⊢
  rintro b ⟨x, hx, hb⟩
  exact h x hx b hb

theorem join {sep : Text} (hsep : Calm sep) {ts : List Text} (h : ∀ t ∈ ts, Calm t) :
    Calm (Text.join sep ts) := by
  fun_induction Text.join sep ts with
  | case1 => exact nil
  | case2 t => exact h t List.mem_cons_self
  | case3 t rest _ ih =>
    obtain ⟨ht, hrest⟩ := List.forall_mem_cons.mp h
    simp only [append_iff]
    exact ⟨⟨ht, hsep⟩, ih hrest⟩

/-- A word of the description language is calm. -/
theorem of_isWordByte (h : ∀ b ∈ t, isWordByte b = true) : Calm t := by
  refine iff_forall.mpr fun b hb => ⟨?_, ?_⟩ <;>
  · rintro rfl
    exact absurd (h _ hb) (by decide)

end Calm

/-! ## Printed documents -/

variable {table : WordTable}

theorem WordTable.IsPath.calm {word : Text} (h : table.IsPath word) : Calm word :=
  .of_isWordByte h.isWordByte

theorem WordTable.IsName.calm {word : Text} (h : table.IsName word) : Calm word := h.isPath.calm

mutual

theorem Ty.Readable.calm_text : {t : Ty} → t.Readable table → Calm t.text
  | .prim kind, h => by
    have hlisted : ∀ kind ∈ Primitive.listed, Calm kind.name := by decide +kernel
    exact hlisted kind h
  | .cls name args, h => by
    simp only [Ty.Readable] at h
    simp only [Ty.text]
    split
    · exact h.1.calm
    · simp only [Calm.append_iff]
      exact ⟨⟨⟨h.1.calm, by decide⟩, Ty.AllReadable.calm_argsText h.2⟩, by decide⟩
  | .array elem, h => by
    simp only [Ty.Readable] at h
    simp only [Ty.text, Calm.append_iff]
    exact ⟨Ty.Readable.calm_text h, by decide⟩

theorem Ty.AllReadable.calm_argsText : {types : List Ty} → Ty.AllReadable table types →
    Calm (Ty.argsText types)
  | [], _ => .nil
  | [t], h => by
    simp only [Ty.AllReadable] at h
    exact Ty.Readable.calm_text h.1
  | t :: u :: types, h => by
    rw [Ty.AllReadable] at h
    simp only [Ty.argsText, Calm.append_iff]
    exact ⟨⟨Ty.Readable.calm_text h.1, by decide⟩, Ty.AllReadable.calm_argsText h.2⟩

end

theorem Arg.Readable.calm_text {a : Arg} (h : a.Readable table) : Calm a.text := by
  simp only [Arg.text, Calm.append_iff]
  exact ⟨⟨h.type.calm_text, by decide⟩, h.name.calm⟩

theorem Constructor.Readable.calm_text {c : Constructor} (h : c.Readable table) :
    Calm c.text := by
  have hargs : Calm (Text.join ", " (c.args.map Arg.text)) := by
    refine .join (by decide) fun t ht => ?_
    obtain ⟨a, ha, rfl⟩ := List.mem_map.mp ht
    exact (h.args a ha).calm_text
  unfold Constructor.text
  split
  · exact h.name.calm
  · simp only [Calm.append_iff]
    exact ⟨⟨⟨h.name.calm, by decide⟩, hargs⟩, by decide⟩

theorem Constructor.calm_restText {cs : List Constructor} (h : ∀ c ∈ cs, c.Readable table) :
    Calm (Constructor.restText cs) := by
  refine .flatMap fun c hc => ?_
  simp only [Calm.append_iff]
  exact ⟨⟨by decide, (h c hc).calm_text⟩, by decide⟩

theorem DataType.Readable.calm_text {d : DataType} (h : d.Readable table) : Calm d.text := by
  simp only [DataType.text, Calm.append_iff]
  refine ⟨⟨⟨h.name.calm, ?_⟩, by decide⟩, ?_⟩
  · split
    · exact .nil
    · simp only [Calm.append_iff]
      exact ⟨⟨by decide, .join (by decide) fun p hp => (h.params p hp).calm⟩, by decide⟩
  · split
    · exact .nil
    next c cs heq =>
      obtain ⟨hc, hcs⟩ := List.forall_mem_cons.mp (heq ▸ h.constructors)
      simp only [Calm.append_iff]
      exact ⟨⟨⟨by decide, hc.calm_text⟩, by decide⟩, Constructor.calm_restText hcs⟩

theorem Doc.Readable.calm_package {doc : Doc} (h : doc.Readable table) : Calm doc.package := by
  rcases h.package with hnone | hpath
  · exact hnone ▸ .nil
  · exact hpath.calm

/-- A printed document can neither open nor end a comment. -/
theorem Doc.Readable.calm_text {doc : Doc} (h : doc.Readable table) : Calm doc.text := by
  simp only [Doc.text, Calm.append_iff]
  refine ⟨⟨?_, ?_⟩, .flatMap fun d hd => (h.types d hd).calm_text⟩
  · split
    · exact .nil
    · simp only [Calm.append_iff]
      exact ⟨⟨by decide, h.calm_package⟩, by decide⟩
  · split
    · exact .nil
    · simp only [Calm.append_iff]
      refine ⟨.flatMap fun i hi => ?_, by decide⟩
      simp only [Calm.append_iff]
      exact ⟨⟨by decide, (h.imports i hi).calm⟩, by decide⟩

/-! ## Ends of comments -/

/-- What opens a block comment. -/
def commentStart : Text := [slash, star]

/-- What ends a block comment. -/
def commentEnd : Text := [star, slash]

section

variable {s t : Text}

theorem not_closes_of_calm (h : Calm t) : ¬ commentEnd <:+: t :=
  fun hends => h.star (hends.subset List.mem_cons_self)

/-- No comment ends in two texts together if none ends in either and their bytes that meet do not
end one. -/
theorem not_closes_append (hs : ¬ commentEnd <:+: s) (ht : ¬ commentEnd <:+: t)
    (hmeet : s.getLast? ≠ some star ∨ t.head? ≠ some slash) : ¬ commentEnd <:+: s ++ t := by
  rw [List.infix_append_iff]
  rintro (h | h | ⟨before, behind, hsplit, hstop, hstart⟩)
  · exact hs h
  · exact ht h
  · rcases before with _ | ⟨b, _ | ⟨c, before⟩⟩
    · exact ht (hsplit ▸ hstart.isInfix)
    · -- the star is in the first text and the slash in the second
      obtain ⟨rfl, rfl⟩ : star = b ∧ [slash] = behind := by simpa [commentEnd] using hsplit
      obtain ⟨u, rfl⟩ := hstop
      obtain ⟨v, rfl⟩ := hstart
      simp at hmeet
    · obtain ⟨rfl, rfl, rfl, rfl⟩ : star = b ∧ slash = c ∧ before = [] ∧ behind = [] := by
        simpa [commentEnd] using hsplit
      exact hs hstop.isInfix

theorem not_closes_append_calm (hs : ¬ commentEnd <:+: s) (ht : Calm t) :
    ¬ commentEnd <:+: s ++ t :=
  not_closes_append hs (not_closes_of_calm ht)
    (.inr fun hhead => ht.slash (List.mem_of_mem_head? hhead))

/-- No comment ends within a provenance. -/
theorem Doc.not_closes_provenance {doc : Doc} {version : Text} (htext : Calm doc.text)
    (hsource : ¬ commentEnd <:+: doc.source) (hversion : ¬ commentEnd <:+: version) :
    ¬ commentEnd <:+: doc.provenance version := by
  -- What is not calm is the name and the version, and both stand behind a blank.
  have hfrom : ¬ commentEnd <:+: ("This file was generated based on " : Text) ++ doc.source :=
    not_closes_append (not_closes_of_calm (by decide)) hsource (.inl (by decide))
  have husing : ¬ commentEnd <:+: "This file was generated based on " ++ doc.source ++
      " using adtc version " ++ version := by
    refine not_closes_append (not_closes_append_calm hfrom (by decide)) hversion (.inl ?_)
    have hlast : List.getLast? (" using adtc version " : Text) = some 32 := by decide
    rw [List.getLast?_append, hlast]
    exact fun h => absurd (Option.some.inj h) (by decide)
  exact not_closes_append_calm (not_closes_append_calm (not_closes_append_calm husing
    (by decide)) (by decide)) htext

theorem Text.cut?_cons {part : Text} {b : UInt8} (h : ¬ part <+: b :: t) :
    cut? part (b :: t) = (cut? part t).map fun (before, behind) => (b :: before, behind) := by
  rw [cut?, if_neg fun hstart => h (List.isPrefixOf_iff_prefix.mp hstart)]

/-- The first end of a comment behind a text in which none ends is the one that follows it. -/
theorem cut?_commentEnd (hs : ¬ commentEnd <:+: s ++ [star]) (t : Text) :
    Text.cut? commentEnd (s ++ commentEnd ++ t) = some (s, t) := by
  induction s with
  | nil => rfl
  | cons b s ih =>
    have hnext : ¬ commentEnd <:+: s ++ [star] := fun h =>
      hs (h.trans (List.suffix_cons b _).isInfix)
    have hhere : ¬ commentEnd <+: b :: (s ++ commentEnd ++ t) := fun h =>
      hs (List.prefix_of_prefix_length_le h ⟨slash :: t, by simp [commentEnd]⟩
        (by simp [commentEnd])).isInfix
    rw [List.cons_append, List.cons_append, Text.cut?_cons hhere, ih hnext]
    rfl

/-! ## Texts without their comments -/

/-- What a reader of a unit is in: code, a line comment or a block comment. -/
inductive Passage where
  | code
  | line
  | block

/-- What is left of a text without its comments. A line comment leaves its line feed, and a block
comment ends at the first `*/` behind its opening. The text is read byte by byte, as it stands. A
compiler that translates Unicode escapes before it looks for comments, as that of Java does, reads
another text if the comments have such escapes. -/
def uncommented : Passage → Text → Text
  | _, [] => []
  | .code, [b] => [b]
  | .code, b :: c :: t =>
    if b = slash ∧ c = slash then uncommented .line t
    else if b = slash ∧ c = star then uncommented .block t
    else b :: uncommented .code (c :: t)
  | .line, b :: t => if b = newline then b :: uncommented .code t else uncommented .line t
  | .block, [_] => []
  | .block, b :: c :: t =>
    if b = star ∧ c = slash then uncommented .code t else uncommented .block (c :: t)

/-- Code that opens no comment stays. -/
theorem uncommented_code_append (hs : slash ∉ s) (t : Text) :
    uncommented .code (s ++ t) = s ++ uncommented .code t := by
  induction s with
  | nil => rfl
  | cons b s ih =>
    have hb : b ≠ slash := (List.ne_of_not_mem_cons hs).symm
    rw [List.cons_append, List.cons_append, ← ih (List.not_mem_of_not_mem_cons hs)]
    cases s ++ t with
    | nil => rfl
    | cons c u => rw [uncommented, if_neg fun h => hb h.1, if_neg fun h => hb h.1]

/-- A line comment ends at the first line feed. -/
theorem uncommented_line_append (hs : newline ∉ s) (t : Text) :
    uncommented .line (s ++ newline :: t) = newline :: uncommented .code t := by
  induction s with
  | nil => rw [List.nil_append, uncommented, if_pos rfl]
  | cons b s ih =>
    have hb : b ≠ newline := (List.ne_of_not_mem_cons hs).symm
    rw [List.cons_append, uncommented, if_neg hb, ih (List.not_mem_of_not_mem_cons hs)]

/-- A block comment ends at the first end of a comment. -/
theorem uncommented_block_of_cut? {inside rest : Text}
    (h : Text.cut? commentEnd t = some (inside, rest)) :
    uncommented .block t = uncommented .code rest := by
  induction t generalizing inside with
  | nil => cases h
  | cons b t ih =>
    cases t with
    | nil => simp [Text.cut?, commentEnd] at h
    | cons c t =>
      by_cases hend : b = star ∧ c = slash
      · obtain ⟨rfl, rfl⟩ := hend
        cases h
        rw [uncommented, if_pos ⟨rfl, rfl⟩]
        rfl
      · -- the comment goes on, and the cut is the same one byte further
        have hhere : ¬ commentEnd <+: b :: c :: t := by
          intro hstart
          obtain ⟨hb, hrest⟩ := List.cons_prefix_cons.mp hstart
          exact hend ⟨hb.symm, (List.cons_prefix_cons.mp hrest).1.symm⟩
        rw [Text.cut?_cons hhere] at h
        obtain ⟨⟨before, behind⟩, hcut, hpair⟩ := Option.map_eq_some_iff.mp h
        cases hpair
        rw [uncommented, if_neg hend, ih hcut]

theorem uncommented_commentStart (t : Text) :
    uncommented .code (commentStart ++ t) = uncommented .block t := by
  rw [commentStart, List.cons_append, List.singleton_append, uncommented, if_neg (by decide),
    if_pos ⟨rfl, rfl⟩]

end

/-! ## Headers -/

/-- A header whose block comment holds `inside` and ends where it should: the first end of a comment
behind the opening is the one before the last line feed. -/
structure Encloses (header before inside : Text) : Prop where
  split : header = before ++ commentStart ++ (inside ++ commentEnd ++ [newline])
  first : Text.cut? commentEnd (inside ++ commentEnd ++ [newline]) = some (inside, [newline])

namespace Encloses

variable {header before inside : Text}

/-- Outside the block comment there is what stands before it. -/
theorem uncommented_eq (h : Encloses header before inside) (hbefore : slash ∉ before) :
    uncommented .code header = before ++ [newline] := by
  rw [h.split, List.append_assoc, uncommented_code_append hbefore, uncommented_commentStart,
    uncommented_block_of_cut? h.first]
  rfl

theorem prepend (h : Encloses header before inside) (t : Text) :
    Encloses (t ++ header) (t ++ before) inside :=
  ⟨by simp only [h.split, List.append_assoc], h.first⟩

/-- A comment that holds a text in which no comment ends, on lines of its own. -/
theorem of_not_closes {t : Text} (h : ¬ commentEnd <:+: t) (before : Text) :
    Encloses (before ++ "/*\n" ++ t ++ "\n*/\n") before (newline :: t ++ [newline]) := by
  refine ⟨?_, cut?_commentEnd ?_ [newline]⟩
  · have hopening : ("/*\n" : Text) = commentStart ++ [newline] := by decide
    have hclosing : ("\n*/\n" : Text) = newline :: commentEnd ++ [newline] := by decide
    simp [hopening, hclosing]
  · -- the star that follows could only end a comment with a slash behind it
    have hcalm : Calm [newline] := by decide
    have hbefore : ¬ commentEnd <:+: newline :: t :=
      not_closes_append (s := [newline]) (not_closes_of_calm hcalm) h (.inl (by decide))
    exact not_closes_append (not_closes_append_calm hbefore hcalm) (by decide) (.inr (by decide))

end Encloses

/-- The package and import clauses of a Java unit. -/
def Java.clauses (package : Text) (imports : List Text) : Text :=
  Text.when (!package.isEmpty) ("package " ++ package ++ ";\n\n") ++
    Text.when (!imports.isEmpty)
      ((imports.flatMap fun i => ("import " ++ i ++ ";\n" : Text)) ++ "\n")

theorem Java.calm_clauses {package : Text} {imports : List Text} (hpackage : Calm package)
    (himports : ∀ i ∈ imports, Calm i) : Calm (clauses package imports) := by
  have hwhen {condition : Bool} {t : Text} (ht : Calm t) : Calm (Text.when condition t) := by
    unfold Text.when
    split
    · exact ht
    · exact .nil
  refine Calm.append_iff.mpr ⟨hwhen ?_, hwhen (Calm.append_iff.mpr ⟨.flatMap fun i hi => ?_, ?_⟩)⟩
  · simp only [Calm.append_iff]
    exact ⟨⟨by decide, hpackage⟩, by decide⟩
  · simp only [Calm.append_iff]
    exact ⟨⟨by decide, himports i hi⟩, by decide⟩
  · decide

/-- The text of the line comment that marks generated Go code. -/
def Go.banner (version source : Text) : Text :=
  " Code generated by adtc " ++ version ++ " from " ++ source ++ ". DO NOT EDIT."

/-- The package clause of a Go unit, with the empty lines around it. -/
def Go.clause (name : Text) : Text := "\npackage " ++ name ++ "\n\n"

theorem Go.newline_not_mem_banner {version source : Text} (hversion : newline ∉ version)
    (hsource : newline ∉ source) : newline ∉ banner version source := by
  simp only [banner, List.mem_append, not_or]
  exact ⟨⟨⟨⟨by decide, hversion⟩, by decide⟩, hsource⟩, by decide⟩

theorem Go.slash_not_mem_packageName {given : Text} {doc : Doc} (hgiven : slash ∉ given)
    (hpackage : Calm doc.package) : slash ∉ packageName given doc := by
  unfold packageName
  split
  · split
    · decide
    · exact hgiven
  · cases hlast : (Text.splitOn (Text.byte '.') doc.package).getLast? with
    | none => exact List.not_mem_nil
    | some piece =>
      exact fun hmem =>
        hpackage.slash (Text.mem_of_mem_splitOn (List.mem_of_getLast? hlast) hmem)

/-- What the comment of a header holds: the provenance, on lines of its own. -/
def Doc.commentText (doc : Doc) (version : Text) : Text :=
  newline :: doc.provenance version ++ [newline]

/-- The header of the units of a document. -/
def Doc.headerText (doc : Doc) (backend : Backend) (version : Text) : Text :=
  backend.header doc version (doc.provenance version)

section

variable {doc : Doc} {version : Text} (h : ¬ commentEnd <:+: doc.provenance version)

include h

theorem Java.encloses_headerText : Encloses (doc.headerText .java version)
    (clauses doc.package doc.imports) (doc.commentText version) :=
  .of_not_closes h _

/-- Behind the line that marks generated code, the header is a package clause and the comment. -/
theorem Go.exists_headerText (given : Text) : ∃ rest,
    doc.headerText (.go given) version =
      slash :: slash :: banner version doc.source ++ newline :: rest ∧
    Encloses rest (clause (packageName given doc)) (doc.commentText version) := by
  refine ⟨_, ?_, .of_not_closes h _⟩
  have hslashes : ("// Code generated by adtc " : Text) =
      slash :: slash :: (" Code generated by adtc " : Text) := by decide
  have hend : (". DO NOT EDIT.\n\n" : Text) = (". DO NOT EDIT." : Text) ++ [newline, newline] := by
    decide
  have hclause : ("\npackage " : Text) = newline :: ("package " : Text) := by decide
  simp only [Doc.headerText, Backend.go, Go.header, banner, clause, hslashes, hend, hclause,
    List.append_assoc, List.cons_append, List.nil_append]

end

/-- **The provenance stays in its comment.** A document that was read prints neither `*` nor `/`.
If neither the name of its source nor the version ends a comment, the block comment of a header,
which holds the provenance, ends where it should. What is left of the header without its comments
is the package clause and, for Java, the import clauses. The header of a Go unit starts with a line
comment, which takes names without line feeds; and a package that was given for documents without
one must not open a comment itself. -/
theorem provenance_enclosed {file : SourceFile} {table : WordTable} {doc : Doc}
    (h : file.parse table = .ok doc) :
    (star ∉ doc.text ∧ slash ∉ doc.text) ∧
    ∀ version : Text, ¬ commentEnd <:+: doc.source → ¬ commentEnd <:+: version →
      (Encloses (doc.headerText .java version) (Java.clauses doc.package doc.imports)
          (doc.commentText version) ∧
        uncommented .code (doc.headerText .java version) =
          Java.clauses doc.package doc.imports ++ [newline]) ∧
      ∀ given : Text, newline ∉ doc.source → newline ∉ version →
        newline ∉ Go.banner version doc.source ∧
        Encloses (doc.headerText (.go given) version)
          (slash :: slash :: Go.banner version doc.source ++
            newline :: Go.clause (Go.packageName given doc))
          (doc.commentText version) ∧
        (slash ∉ given → uncommented .code (doc.headerText (.go given) version) =
          newline :: Go.clause (Go.packageName given doc) ++ [newline]) := by
  have hreadable := SourceFile.readable_of_parse h
  have hcalm := hreadable.calm_text
  refine ⟨⟨hcalm.star, hcalm.slash⟩, fun version hsource hversion => ?_⟩
  have hprovenance := Doc.not_closes_provenance hcalm hsource hversion
  refine ⟨?_, fun given hline hline' => ?_⟩
  · have hheader := Java.encloses_headerText hprovenance
    have hclauses := Java.calm_clauses hreadable.calm_package
      fun i hi => (hreadable.imports i hi).calm
    exact ⟨hheader, hheader.uncommented_eq hclauses.slash⟩
  · have hbanner := Go.newline_not_mem_banner hline' hline
    obtain ⟨rest, hheader, hrest⟩ := Go.exists_headerText hprovenance given
    refine ⟨hbanner, ?_, fun hgiven => ?_⟩
    · have hall := hrest.prepend (slash :: slash :: Go.banner version doc.source ++ [newline])
      rw [hheader]
      simpa only [List.append_assoc, List.cons_append, List.nil_append] using hall
    · -- the line comment is skipped up to its line feed, then the rest is like a header for Java
      have hname := Go.slash_not_mem_packageName hgiven hreadable.calm_package
      have hclause : slash ∉ Go.clause (Go.packageName given doc) := by
        simp only [Go.clause, List.mem_append, not_or]
        exact ⟨⟨by decide, hname⟩, by decide⟩
      rw [hheader, List.cons_append, List.cons_append, uncommented, if_pos ⟨rfl, rfl⟩,
        uncommented_line_append hbanner, hrest.uncommented_eq hclause]
      rfl

/-- A source with comments, whose name opens one. -/
def openingName : SourceFile :=
  { id := 0, path := "x/*.adt"
    content := "/* a */ package a.b\nimport c.D // e\nBox<A> = Box(Map<A, int>[] m)\n", flags := 0 }

/-- The document that is read from it. -/
def openingNameDoc : Doc where
  source := "x/*.adt"
  package := "a.b"
  imports := ["c.D"]
  types := [⟨"Box", ["A"],
    [⟨"Box", [⟨.array (.cls "Map" [.cls "A" [], .prim .int]), "m"⟩]⟩]⟩]

/-- Only the clauses are outside its comments. -/
theorem provenance_enclosed_openingName :
    openingName.parse Backend.java.wordTable = .ok openingNameDoc ∧
    ¬ commentEnd <:+: openingNameDoc.source ∧ ¬ commentEnd <:+: ("1*" : Text) ∧
    uncommented .code (openingNameDoc.headerText .java "1*") =
      "package a.b;\n\nimport c.D;\n\n\n" ∧
    uncommented .code (openingNameDoc.headerText (.go "p") "1*") = "\n\npackage b\n\n\n" := by
  have hread : openingName.parse Backend.java.wordTable = .ok openingNameDoc := by rfl
  have hsource : ¬ commentEnd <:+: openingNameDoc.source := by decide
  have hversion : ¬ commentEnd <:+: ("1*" : Text) := by decide
  obtain ⟨⟨-, hjava⟩, hgo⟩ := (provenance_enclosed hread).2 "1*" hsource hversion
  obtain ⟨-, -, hgo⟩ := hgo "p" (by decide) (by decide)
  exact ⟨hread, hsource, hversion, hjava.trans (by decide), (hgo (by decide)).trans (by decide)⟩

end AdtCompiler
