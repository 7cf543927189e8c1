import AdtCompiler.Backend.Basic
import AdtCompiler.Proofs.Clash
import AdtCompiler.Proofs.GoText
import AdtCompiler.Proofs.Readable
import Mathlib.Data.List.Flatten

/-!
# Names of a generated Go package

All units of a document belong to one package, and their declarations share its names. If the
document was read with the words of Go reserved and passes the check with the rules of Go, no two
declarations have the same name, and none is named like something that generated code refers to.

Three passes share the work: reading keeps the words of the language out, the shared rules keep
types and constructors apart, and the rule of the back end keeps them apart from the functions
that are generated for them.

## Contents

- `NamesFree`: what the rule of the back end grants
- `packageNames`: the names that the units of a document declare
- `package_names_apart`
-/

namespace AdtCompiler.Go

open scoped List

/-! ## What the rule grants -/

/-- The names of a document are free of those that generated code refers to and of the functions
that are generated for its types. -/
structure NamesFree (doc : Doc) : Prop where
  types : ∀ name ∈ typeNames doc, name ∉ referenced.map (·.1)
  params : ∀ d ∈ doc.types, ∀ p ∈ d.params, p ∉ referenced.map (·.1)
  builders : ∀ d ∈ doc.types, ∀ c ∈ d.constructors, builderName c.name ∉ typeNames doc
  matchers : ∀ d ∈ doc.types, d.isRecord = false → matchName d.name ∉ typeNames doc

theorem not_referenced_of_findings {scope name : Text} (h : referenceFindings scope name = []) :
    name ∉ referenced.map (·.1) := by
  unfold referenceFindings at h
  split at h
  case h_1 => cases h
  case h_2 hlookup =>
    intro hmem
    obtain ⟨entry, hentry, rfl⟩ := List.mem_map.mp hmem
    simpa using List.lookup_eq_none_iff.mp hlookup entry hentry

theorem mem_typeNames {doc : Doc} {name : Text} :
    name ∈ typeNames doc ↔ ∃ d ∈ doc.types, name = d.name ∨
      d.isRecord = false ∧ ∃ c ∈ d.constructors, name = c.name := by
  simp only [typeNames, List.mem_flatMap, List.mem_cons]
  refine exists_congr fun d => and_congr_right fun _ => or_congr_right ?_
  cases d.isRecord <;> simp [eq_comm]

/-- A document in which the rule finds nothing has free names. -/
theorem namesFree_of_nameRule {doc : Doc} (h : nameRule doc = []) : NamesFree doc := by
  simp only [nameRule, typeClashes, constructorClashes, List.flatMap_eq_nil_iff,
    List.append_eq_nil_iff] at h
  refine ⟨fun name hname => ?_, fun d hd p hp => ?_, fun d hd c hc => ?_, fun d hd hvariant => ?_⟩
  · obtain ⟨d, hd, rfl | ⟨hvariant, c, hc, rfl⟩⟩ := mem_typeNames.mp hname
    · exact not_referenced_of_findings (h d hd).1.1.1
    · have hconstructor := ((h d hd).2 c hc).1.1
      rw [hvariant] at hconstructor
      exact not_referenced_of_findings hconstructor
  · exact not_referenced_of_findings ((h d hd).1.1.2 p hp)
  · intro hmem
    have hbuilder := ((h d hd).2 c hc).1.2
    rw [if_pos (List.contains_iff_mem.mpr hmem)] at hbuilder
    cases hbuilder
  · intro hmem
    have hmatcher := (h d hd).1.2
    rw [hvariant, if_pos (by simpa using hmem)] at hmatcher
    cases hmatcher

/-- What a document must have gone through before its units are generated. -/
structure Accepted (doc : Doc) : Prop where
  readable : doc.Readable ⟨reservedWords⟩
  apart : doc.NamesApart
  free : NamesFree doc

theorem accepted_of_check {file : SourceFile} {doc : Doc} {package : Text}
    (read : file.parse (Backend.go package).wordTable = .ok doc)
    (passes : (doc.check (Backend.go package).rules).isEmpty = true) : Accepted doc := by
  obtain ⟨hapart, hrules⟩ := Doc.check_isEmpty_iff.mp passes
  exact ⟨SourceFile.readable_of_parse read, hapart,
    namesFree_of_nameRule (hrules nameRule List.mem_cons_self)⟩

/-! ## The names of a package -/

/-- The constructors that become types of their own. -/
def variantNames (doc : Doc) : List Text :=
  doc.types.flatMap fun d => if 1 < d.constructors.length then d.constructors.map (·.name) else []

/-- The functions that build constructors. -/
def builderNames (doc : Doc) : List Text :=
  doc.types.flatMap fun d => d.constructors.map (builderName ·.name)

/-- The functions that match values of variant types. -/
def matcherNames (doc : Doc) : List Text :=
  doc.types.flatMap fun d => if 1 < d.constructors.length then [matchName d.name] else []

/-- The names that the units of a document declare for their package: the data types, the
constructors of those with more than one, the functions that build constructors, and those that
match values of data types with more than one constructor. -/
def packageNames (doc : Doc) : List Text :=
  doc.types.map (·.name) ++ variantNames doc ++ builderNames doc ++ matcherNames doc

/-- The names that the declarations of a data type declare for the package. -/
def declaredNames (doc : Doc) (d : DataType) : List Text :=
  (declarations doc d).flatMap (List.filterMap Piece.declared?)

/-- Where every data type has a constructor, those that are no records have several. -/
theorem ite_isRecord {α : Type} {d : DataType} (h : d.constructors ≠ []) (a b : α) :
    (if d.isRecord then a else b) = if 1 < d.constructors.length then b else a := by
  have hpos : 0 < d.constructors.length := List.length_pos_iff.mpr h
  by_cases hone : d.constructors.length = 1
  · rw [if_pos (by simpa [DataType.isRecord] using hone), if_neg (by omega)]
  · rw [if_neg (by simpa [DataType.isRecord] using hone), if_pos (by omega)]

theorem typeNames_perm {doc : Doc} (h : Accepted doc) :
    typeNames doc ~ doc.types.map (·.name) ++ variantNames doc := by
  have hnames : typeNames doc = doc.types.flatMap fun d =>
      [d.name] ++ if 1 < d.constructors.length then d.constructors.map (·.name) else [] := by
    refine List.flatMap_congr fun d hd => ?_
    rw [ite_isRecord (h.readable.types d hd).nonempty, List.singleton_append]
  rw [hnames, List.map_eq_flatMap]
  exact (List.flatMap_append_perm doc.types _ _).symm

@[simp] theorem declared?_binds (region : Region) (name : Text) :
    Piece.declared? (.binds region name) = none := rfl

@[simp] theorem declared?_declares (name : Text) : Piece.declared? (.declares name) = some name :=
  rfl

theorem declaredNames_of_record {doc : Doc} {d : DataType} {c : Constructor}
    (h : declarations doc d = recordDeclarations doc d c) :
    declaredNames doc d = [d.name, builderName c.name] := by
  have select := selects_declared?
  simp [declaredNames, h, recordDeclarations, select.plain,
    select.structPieces, select.builderPieces, select.stringerPieces]

theorem declaredNames_of_variant {doc : Doc} {d : DataType}
    (h : declarations doc d = variantDeclarations doc d) :
    declaredNames doc d =
      d.name :: (d.constructors.flatMap fun c => [c.name, builderName c.name]) ++
        [matchName d.name] := by
  have select := selects_declared?
  simp [declaredNames, h, variantDeclarations, constructorDeclarations, List.flatMap_assoc,
    select.plain, select.structPieces, select.markerPieces,
    select.builderPieces, select.stringerPieces, select.interfacePieces, select.matcherPieces]

/-- The names that the declarations of a data type declare, sorted by what they name. -/
theorem declaredNames_perm (doc : Doc) {d : DataType} (h : d.constructors ≠ []) :
    declaredNames doc d ~
      [d.name] ++ ((if 1 < d.constructors.length then d.constructors.map (·.name) else []) ++
        (d.constructors.map (builderName ·.name) ++
          if 1 < d.constructors.length then [matchName d.name] else [])) := by
  rw [← ite_isRecord h, ← ite_isRecord h]
  rcases declarations_cases doc d with ⟨c, hone, hrecord, hpieces, -⟩ | ⟨hvariant, hpieces, -⟩
  · rw [declaredNames_of_record hpieces, hone, hrecord]
    exact .refl _
  · rw [declaredNames_of_variant hpieces, hvariant]
    have hpairs : (d.constructors.flatMap fun c => [c.name, builderName c.name]) ~
        d.constructors.map (·.name) ++ d.constructors.map (builderName ·.name) := by
      rw [List.map_eq_flatMap, List.map_eq_flatMap]
      exact (List.flatMap_append_perm d.constructors (fun c => [c.name])
        (fun c => [builderName c.name])).symm
    simpa using hpairs.append_right [matchName d.name]

/-- The declarations of all units declare the names of the package. -/
theorem declared_perm {doc : Doc} (h : Accepted doc) :
    doc.types.flatMap (declaredNames doc) ~ packageNames doc := by
  refine (List.Perm.flatMap_left doc.types fun d hd =>
    declaredNames_perm doc (h.readable.types d hd).nonempty).trans ?_
  have split := fun f g : DataType → List Text => (List.flatMap_append_perm doc.types f g).symm
  refine (split _ _).trans ?_
  rw [packageNames, List.append_assoc, List.append_assoc]
  rw [List.map_eq_flatMap]
  exact .append_left _ ((split _ _).trans (.append_left _ (split _ _)))

/-! ## Names apart -/

/-- The names that generated code refers to: the imported package, the function that reports
what cannot happen, and types of the language. -/
def mentionedNames : List Text := "fmt" :: "panic" :: nativeTypes

/-- What is not reserved for reading is refused by the rule. -/
theorem reserved_or_referenced : ∀ name ∈ mentionedNames,
    name ∈ reservedWords ∨ name ∈ referenced.map (·.1) := by decide

theorem not_mem_reserved_of_isName {table : WordTable} {name : Text} (h : table.IsName name) :
    name ∉ table.reserved := by
  intro hmem
  have hfree := h.free
  unfold WordTable.lookup? at hfree
  split at hfree
  · cases hfree
  · rw [if_pos (List.contains_iff_mem.mpr hmem)] at hfree
    cases hfree

theorem typeNames_sublist (doc : Doc) : typeNames doc <+ doc.declaredNames := by
  refine List.Sublist.flatMap_right doc.types fun d _ => List.Sublist.cons_cons _ ?_
  cases d.isRecord <;> simp

/-- The names of all constructors are declared names: the constructor of a record that is named
like the record stands for both. -/
theorem constructorNames_sublist (doc : Doc) :
    doc.types.flatMap (·.constructors.map (·.name)) <+ doc.declaredNames := by
  refine List.Sublist.flatMap_right doc.types fun d _ => ?_
  unfold DataType.declaredNames
  by_cases hsame : d.isRecord = true ∧ ∃ c ∈ d.constructors, c.name = d.name
  · -- the name of the record is there once, and it is the name of its only constructor
    obtain ⟨hrecord, c, hc, hname⟩ := hsame
    obtain ⟨e, he⟩ := List.length_eq_one_iff.mp (by simpa [DataType.isRecord] using hrecord)
    rw [he, List.mem_singleton] at hc
    subst hc
    simp [he, hname]
  · have hall : d.constructors.filter (fun c => !(d.isRecord && c.name == d.name)) =
        d.constructors := by
      rw [List.filter_eq_self]
      intro c hc
      simp only [Bool.not_eq_true', Bool.and_eq_false_iff, beq_eq_false_iff_ne]
      cases hrecord : d.isRecord
      · exact .inl rfl
      · exact .inr fun hname => hsame ⟨hrecord, c, hc, hname⟩
    rw [hall]
    exact List.sublist_cons_self _ _

/-- Names that begin with an upper-case word are none that generated code mentions. -/
theorem append_not_mem_mentionedNames {word : Text} (name : Text)
    (h : word = ("New" : Text) ∨ word = ("Match" : Text)) : word ++ name ∉ mentionedNames := by
  have hheads : ∀ mentioned ∈ mentionedNames, mentioned.head? ≠ some (Text.byte 'N') ∧
      mentioned.head? ≠ some (Text.byte 'M') := by decide
  have hnew : ∀ rest : Text, (("New" : Text) ++ rest).head? = some (Text.byte 'N') := fun _ => rfl
  have hmatch : ∀ rest : Text, (("Match" : Text) ++ rest).head? = some (Text.byte 'M') :=
    fun _ => rfl
  intro hmem
  rcases h with rfl | rfl
  · exact (hheads _ hmem).1 (hnew name)
  · exact (hheads _ hmem).2 (hmatch name)

theorem builderName_ne_matchName (constructor dataType : Text) :
    builderName constructor ≠ matchName dataType := by
  intro h
  have hhead : some (Text.byte 'N') = some (Text.byte 'M') := congrArg List.head? h
  exact absurd hhead (by decide)

variable {doc : Doc}

theorem mem_builderNames {name : Text} :
    name ∈ builderNames doc ↔
      ∃ d ∈ doc.types, ∃ c ∈ d.constructors, builderName c.name = name := by
  simp [builderNames, List.mem_flatMap]

theorem mem_matcherNames {name : Text} :
    name ∈ matcherNames doc ↔
      ∃ d ∈ doc.types, 1 < d.constructors.length ∧ name = matchName d.name := by
  simp only [matcherNames, List.mem_flatMap]
  refine exists_congr fun d => and_congr_right fun _ => ?_
  split <;> simp [*]

theorem isName_of_mem_typeNames (h : Accepted doc) {name : Text} (hname : name ∈ typeNames doc) :
    WordTable.IsName ⟨reservedWords⟩ name := by
  obtain ⟨d, hd, rfl | ⟨-, c, hc, rfl⟩⟩ := mem_typeNames.mp hname
  · exact (h.readable.types d hd).name
  · exact ((h.readable.types d hd).constructors c hc).name

theorem builderNames_nodup (h : Accepted doc) : (builderNames doc).Nodup := by
  have hconstructors := h.apart.declared.sublist (constructorNames_sublist doc)
  have hmap : builderNames doc =
      (doc.types.flatMap (·.constructors.map (·.name))).map builderName := by
    simp [builderNames, List.map_flatMap, Function.comp_def]
  rw [hmap]
  exact hconstructors.map fun _ _ => List.append_cancel_left

theorem types_nodup (h : Accepted doc) : (doc.types.map (·.name) ++ variantNames doc).Nodup :=
  (typeNames_perm h).nodup_iff.mp (h.apart.declared.sublist (typeNames_sublist doc))

theorem matcherNames_nodup (h : Accepted doc) : (matcherNames doc).Nodup := by
  have hsublist : matcherNames doc <+ (doc.types.map (·.name)).map matchName := by
    rw [List.map_map, List.map_eq_flatMap]
    refine List.Sublist.flatMap_right doc.types fun d _ => ?_
    split <;> simp
  have htypes := (List.nodup_append.mp (types_nodup h)).1
  exact (htypes.map fun _ _ => List.append_cancel_left).sublist hsublist

theorem mem_packageNames (h : Accepted doc) {name : Text} :
    name ∈ packageNames doc ↔
      name ∈ typeNames doc ∨ name ∈ builderNames doc ∨ name ∈ matcherNames doc := by
  rw [packageNames, List.mem_append, List.mem_append, ← (typeNames_perm h).mem_iff, or_assoc]

theorem packageNames_nodup (h : Accepted doc) : (packageNames doc).Nodup := by
  refine List.nodup_append.mpr ⟨List.nodup_append.mpr ⟨types_nodup h, builderNames_nodup h, ?_⟩,
    matcherNames_nodup h, ?_⟩
  · rintro name hname _ hbuilder rfl
    obtain ⟨d, hd, c, hc, rfl⟩ := mem_builderNames.mp hbuilder
    exact h.free.builders d hd c hc ((typeNames_perm h).mem_iff.mpr hname)
  · rintro name hname _ hmatcher rfl
    obtain ⟨d, hd, hseveral, rfl⟩ := mem_matcherNames.mp hmatcher
    rcases List.mem_append.mp hname with htype | hbuilder
    · have hvariant : d.isRecord = false := by simp [DataType.isRecord]; omega
      exact h.free.matchers d hd hvariant ((typeNames_perm h).mem_iff.mpr htype)
    · obtain ⟨-, -, c, -, hc⟩ := mem_builderNames.mp hbuilder
      exact builderName_ne_matchName _ _ hc

theorem not_mem_packageNames (h : Accepted doc) {name : Text} (hname : name ∈ mentionedNames) :
    name ∉ packageNames doc := by
  rw [mem_packageNames h]
  rintro (htype | hbuilder | hmatcher)
  · rcases reserved_or_referenced name hname with hreserved | hreferenced
    · exact not_mem_reserved_of_isName (isName_of_mem_typeNames h htype) hreserved
    · exact h.free.types name htype hreferenced
  · obtain ⟨-, -, c, -, rfl⟩ := mem_builderNames.mp hbuilder
    exact append_not_mem_mentionedNames c.name (.inl rfl) hname
  · obtain ⟨d, -, -, rfl⟩ := mem_matcherNames.mp hmatcher
    exact append_not_mem_mentionedNames d.name (.inr rfl) hname

/-- **The names of a generated package are told apart.** The names that the units of an accepted
document declare for their package are all different, and none of them is a name that generated
code refers to. They are the names in the declarations that are rendered. -/
theorem package_names_apart {file : SourceFile} {doc : Doc} {package : Text}
    (read : file.parse (Backend.go package).wordTable = .ok doc)
    (passes : (doc.check (Backend.go package).rules).isEmpty = true) :
    (packageNames doc).Nodup ∧ (∀ name ∈ mentionedNames, name ∉ packageNames doc) ∧
      doc.types.flatMap (declaredNames doc) ~ packageNames doc ∧
      ∀ d ∈ doc.types, (declarations doc d).flatMap textOf = decls (recordNames doc) d := by
  have h := accepted_of_check read passes
  exact ⟨packageNames_nodup h, fun name hname => not_mem_packageNames h hname, declared_perm h,
    fun d _ => text_declarations doc d⟩

/-- A source with a record, a variant type with parameters, and names close to generated ones. -/
def closeNames : SourceFile :=
  { id := 0, path := "close.adt"
    content := "Match = New(int x)\nEither<L, R> = Left(L R1) | Ma(Match m)", flags := 0 }

/-- Names that look like generated ones are told apart from them. -/
theorem package_names_apart_close :
    ∃ doc, closeNames.parse (Backend.go "").wordTable = .ok doc ∧
      (doc.check (Backend.go "").rules).isEmpty = true ∧
      packageNames doc =
        ["Match", "Either", "Left", "Ma", "NewNew", "NewLeft", "NewMa", "MatchEither"] ∧
      (packageNames doc).Nodup := by
  have hpasses : (match closeNames.parse (Backend.go "").wordTable with
    | .ok doc => (doc.check (Backend.go "").rules).isEmpty && packageNames doc ==
        ["Match", "Either", "Left", "Ma", "NewNew", "NewLeft", "NewMa", "MatchEither"]
    | .error _ => false) = true := by decide
  cases hread : closeNames.parse (Backend.go "").wordTable with
  | error e =>
    rw [hread] at hpasses
    cases hpasses
  | ok doc =>
    rw [hread] at hpasses
    obtain ⟨hpasses, hnames⟩ := Bool.and_eq_true_iff.mp hpasses
    exact ⟨doc, rfl, hpasses, eq_of_beq hnames, (package_names_apart hread hpasses).1⟩

end AdtCompiler.Go
