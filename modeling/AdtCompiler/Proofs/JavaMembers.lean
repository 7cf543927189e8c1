import AdtCompiler.Proofs.JavaScope

/-!
# The types in the class of a variant type

The class of a variant type nests a class for each constructor and four visitors beside them. All of
them are found by name inside the class, and so are the class itself and its type parameters. Three
checks keep these names apart, and each covers a part of the pairs: the names of a document are
taken once, a type parameter hides no type around it, and no name of a variant type is that of a
visitor.

Beside its type parameters a class has one more type variable, that for the result of a visitor. No
check covers it, and it is chosen apart from the type parameters alone.

## Contents

- `MemberType`: a type that is declared in a class, with its text
- `classText_eq_members`: the class of a variant type, member type by member type
- `typeVariables`: all type variables that are bound in the class
- `class_types_apart`: which names inside the class are apart
- `class_type_hidden`: classes in which a type variable hides a type
-/

namespace AdtCompiler.Java

/-! ## Member types -/

/-- What stands before the name of a type that is declared in a class. -/
def memberLeads : List Text :=
  ["   public static interface ", "   public static abstract class ",
    "   public static final class "]

/-- A type that is declared in a class: its name, its type parameters and the text of its
declaration, which begins with both. -/
structure MemberType where
  name : Text
  params : List Text
  text : Text
  declares : ∃ lead ∈ memberLeads, lead ++ name ++ typeParams params <+: text

/-- The visitor with a result. -/
def visitorMember (d : DataType) : MemberType where
  name := "Visitor"
  params := withResult d.params
  text := textOf (visitorPieces d)
  declares := by
    have hlead : ("   public static interface Visitor" : Text) =
        ("   public static interface " : Text) ++ ("Visitor" : Text) := by
      decide
    refine ⟨_, .head _, ?_⟩
    simp only [visitorPieces, textOf_append, textOf_cons, textOf_binders, Piece.text_plain,
      List.cons_append, List.append_assoc, hlead, List.prefix_append_right_inj]
    exact List.prefix_append _ _

/-- The visitor with a result and a default. -/
def defaultMember (d : DataType) : MemberType where
  name := "VisitorWithDefault"
  params := withResult d.params
  text := textOf (defaultPieces d)
  declares := by
    have hlead : ("   public static abstract class VisitorWithDefault" : Text) =
        ("   public static abstract class " : Text) ++ ("VisitorWithDefault" : Text) := by
      decide
    refine ⟨_, .tail _ (.head _), ?_⟩
    simp only [defaultPieces, textOf_append, textOf_cons, textOf_binders, Piece.text_plain,
      List.cons_append, List.append_assoc, hlead, List.prefix_append_right_inj]
    exact List.prefix_append _ _

/-- The visitor without a result. -/
def voidMember (d : DataType) : MemberType where
  name := "VoidVisitor"
  params := d.params
  text := "   public static interface " ++ "VoidVisitor" ++ typeParams d.params ++ (" \x7b\n" ++
    (d.constructors.flatMap fun c =>
      ("      void visit(" ++ c.name ++ typeParams d.params ++ " x);\n" : Text)) ++
    "   \x7d\n\n")
  declares := ⟨_, .head _, List.prefix_append _ _⟩

/-- The visitor without a result and with a default. -/
def voidDefaultMember (d : DataType) : MemberType where
  name := "VoidVisitorWithDefault"
  params := d.params
  text := "   public static abstract class " ++ "VoidVisitorWithDefault" ++ typeParams d.params ++
    (" implements VoidVisitor" ++ typeParams d.params ++ " \x7b\n" ++
    (d.constructors.flatMap fun c =>
      ("      @Override\n" ++ "      public void visit(" ++ c.name ++ typeParams d.params ++
        " x) \x7b doDefault(x); \x7d\n\n" : Text)) ++
    "      protected abstract void doDefault(" ++ d.name ++ typeParams d.params ++ " x);\n" ++
    "   \x7d\n\n")
  declares := ⟨_, .tail _ (.head _), List.prefix_append _ _⟩

/-- The class of a constructor. -/
def constructorMember (d : DataType) (c : Constructor) : MemberType where
  name := c.name
  params := d.params
  text := declaration d.name d.params c ++ "\n\n"
  declares := by
    refine ⟨_, .tail _ (.tail _ (.head _)), ?_⟩
    simp only [declaration_eq, List.append_assoc, List.prefix_append_right_inj]
    exact List.prefix_append _ _

/-- All types that are declared in the class of a variant type, in order. -/
def memberTypes (d : DataType) : List MemberType :=
  [visitorMember d, defaultMember d, voidMember d, voidDefaultMember d] ++
    d.constructors.map (constructorMember d)

theorem map_name_memberTypes (d : DataType) : (memberTypes d).map (·.name) = nestedNames d := by
  simp [memberTypes, nestedNames, visitorNames, visitorMember, defaultMember, voidMember,
    voidDefaultMember, constructorMember]

/-- The class of a variant type up to its member types: its head, the constructor of the class and
the methods that build objects. -/
def classOpening (d : DataType) : Text :=
  "public abstract class " ++ d.name ++ typeParams d.params ++ " \x7b\n\n" ++
    "   private " ++ d.name ++ "() \x7b\n   \x7d\n\n" ++
    (d.constructors.flatMap fun c => (factory d.name d.params c ++ "\n" : Text)) ++ "\n"

/-- The class of a variant type behind its member types: the methods that take visitors. -/
def classClosing (d : DataType) : Text :=
  textOf (abstractAccept d) ++
    ("   public abstract void accept(VoidVisitor" ++ typeParams d.params ++ " visitor);\n\n" ++
      "\x7d\n")

theorem voidVisitors_eq (d : DataType) :
    voidVisitors d = (voidMember d).text ++ (voidDefaultMember d).text := by
  have hvisitor : ("   public static interface VoidVisitor" : Text) =
      ("   public static interface " : Text) ++ ("VoidVisitor" : Text) := by
    decide
  have hdefault : ("   public static abstract class VoidVisitorWithDefault" : Text) =
      ("   public static abstract class " : Text) ++ ("VoidVisitorWithDefault" : Text) := by
    decide
  simp only [voidVisitors, voidMember, voidDefaultMember, hvisitor, hdefault, List.append_assoc]

/-- The class of a variant type holds its member types one behind another. -/
theorem classText_eq_members {d : DataType} (variant : 1 < d.constructors.length) :
    classText d = classOpening d ++ (memberTypes d).flatMap MemberType.text ++ classClosing d := by
  have hclasses : (d.constructors.map (constructorMember d)).flatMap MemberType.text =
      d.constructors.flatMap fun c => (declaration d.name d.params c ++ "\n\n" : Text) :=
    List.flatMap_map ..
  rw [classText_of_variant variant, variantClass_eq, voidVisitors_eq, memberTypes,
    List.flatMap_append, hclasses]
  simp only [classOpening, classClosing, visitorMember, defaultMember, List.flatMap_cons,
    List.flatMap_nil, List.append_assoc, List.append_nil]

/-! ## Names apart -/

variable {doc : Doc} {d : DataType}

/-- The constructors of a variant type have different names. -/
theorem constructors_nodup (h : doc.NamesApart) (hd : d ∈ doc.types)
    (variant : 1 < d.constructors.length) : (d.constructors.map (·.name)).Nodup := by
  have hrecord : d.isRecord = false := by
    simp only [DataType.isRecord, beq_eq_false_iff_ne]
    omega
  have hnodup : d.declaredNames.Nodup := (List.nodup_flatMap.mp h.declared).1 d hd
  simpa [DataType.declaredNames, hrecord] using (List.nodup_cons.mp hnodup).2

/-- The types nested in the class of an accepted variant type have different names. -/
theorem nestedNames_nodup (passes : (doc.check Backend.java.rules).isEmpty = true)
    (hd : d ∈ doc.types) (variant : 1 < d.constructors.length) : (nestedNames d).Nodup := by
  have hapart := (Doc.check_isEmpty_iff.mp passes).1
  apply List.Nodup.append
  · decide
  · exact constructors_nodup hapart hd variant
  · -- no constructor has the name of a visitor
    intro name hvisitor hconstructor
    exact not_mem_visitorNames passes hd variant
      (List.mem_cons_of_mem _ (List.mem_append_right _ hconstructor)) hvisitor

/-! ## Type variables -/

/-- The methods of a class that take a visitor with a result. -/
def acceptMethods (d : DataType) : List (List Piece) :=
  abstractAccept d :: d.constructors.map fun _ => overridingAccept d

/-- The type variables that are bound in the class of a variant type: by the class, which its
methods that build objects repeat, by the types declared in it, and by the methods that take a
visitor with a result. -/
def typeVariables (d : DataType) : List Text :=
  d.params ++ (memberTypes d).flatMap (·.params) ++
    (acceptMethods d).flatMap fun pieces => pieces.filterMap Piece.bound?

theorem params_of_mem_memberTypes {m : MemberType} (h : m ∈ memberTypes d) :
    m.params = d.params ∨ m.params = withResult d.params := by
  rcases List.mem_append.mp h with hvisitor | hconstructor
  · simp only [List.mem_cons, List.not_mem_nil, or_false] at hvisitor
    rcases hvisitor with rfl | rfl | rfl | rfl
    · exact .inr rfl
    · exact .inr rfl
    · exact .inl rfl
    · exact .inl rfl
  · obtain ⟨c, -, rfl⟩ := List.mem_map.mp hconstructor
    exact .inl rfl

/-- A type variable of the class is one of its type parameters or that for the result. -/
theorem mem_typeVariables {v : Text} :
    v ∈ typeVariables d ↔ v ∈ d.params ∨ v = resultParam d.params := by
  simp only [typeVariables, List.mem_append, List.mem_flatMap]
  constructor
  · rintro ((hparam | ⟨m, hm, hv⟩) | ⟨pieces, hpieces, hv⟩)
    · exact .inl hparam
    · rcases params_of_mem_memberTypes hm with heq | heq
      · exact .inl (heq ▸ hv)
      · simpa [heq, withResult] using hv
    · simp only [acceptMethods, List.mem_cons, List.mem_map] at hpieces
      rcases hpieces with rfl | ⟨-, -, rfl⟩
      · exact .inr (mem_own_acceptPieces.mp hv)
      · exact .inr (mem_own_acceptPieces.mp hv)
  · rintro (hparam | rfl)
    · exact .inl (.inl hparam)
    · exact .inr ⟨_, .head _, mem_own_acceptPieces.mpr rfl⟩

/-- The only type variable that can hide a type of the class is that for the result, and it hides
the class or that of a constructor. -/
theorem hides_iff (hapart : Apart d) {v : Text} (hv : v ∈ typeVariables d) :
    v ∈ d.name :: nestedNames d ↔
      v = resultParam d.params ∧ v ∈ d.name :: d.constructors.map (·.name) := by
  constructor
  · intro hname
    rcases mem_typeVariables.mp hv with hparam | rfl
    · exact absurd hparam (hapart.params v hname)
    · refine ⟨rfl, ?_⟩
      rcases List.mem_cons.mp hname with heq | hnested
      · exact heq ▸ List.mem_cons_self
      · rcases List.mem_append.mp hnested with hvisitor | hconstructor
        · exact absurd hvisitor (resultParam_not_mem_visitorNames _)
        · exact List.mem_cons_of_mem _ hconstructor
  · rintro ⟨-, hname⟩
    rcases List.mem_cons.mp hname with heq | hconstructor
    · exact heq ▸ List.mem_cons_self
    · exact List.mem_cons_of_mem _ (List.mem_append_right _ hconstructor)

/-- **Which names inside a class are apart.** In documents that pass the check, a variant type, its
constructors and the visitors have different names, and so have its type parameters, none of which
has one of these names. The class is its head, the types declared in it and its methods; these types
have different names and none is named like the class. A type variable that is bound in the class
has the name of one of them, or of the class, iff it is that for the result and a constructor, or
the class, is named like it; so no type is hidden iff none of them is. -/
theorem class_types_apart (passes : (doc.check Backend.java.rules).isEmpty = true)
    (hd : d ∈ doc.types) (variant : 1 < d.constructors.length) :
    (d.name :: d.constructors.map (·.name) ++ visitorNames).Nodup ∧ d.params.Nodup ∧
      (∀ p ∈ d.params, p ∉ d.name :: d.constructors.map (·.name) ++ visitorNames) ∧
      classText d =
        classOpening d ++ (memberTypes d).flatMap MemberType.text ++ classClosing d ∧
      ((memberTypes d).map (·.name)).Nodup ∧ d.name ∉ (memberTypes d).map (·.name) ∧
      (∀ p ∈ d.params, p ≠ d.name ∧ p ∉ (memberTypes d).map (·.name)) ∧
      (∀ pieces ∈ acceptMethods d, textOf pieces <:+: classText d) ∧
      (∀ v ∈ typeVariables d, v ∈ d.name :: (memberTypes d).map (·.name) ↔
        v = resultParam d.params ∧ v ∈ d.name :: d.constructors.map (·.name)) ∧
      ((∀ v ∈ typeVariables d, v ∉ d.name :: (memberTypes d).map (·.name)) ↔
        resultParam d.params ∉ d.name :: d.constructors.map (·.name)) := by
  have hapart := apart_of_check passes hd variant
  have hnested := nestedNames_nodup passes hd variant
  have hperm : (d.name :: d.constructors.map (·.name) ++ visitorNames).Perm
      (d.name :: nestedNames d) :=
    List.Perm.cons _ List.perm_append_comm
  have hparams : ∀ p ∈ d.params, p ∉ d.name :: nestedNames d :=
    fun p hp hname => hapart.params p hname hp
  rw [map_name_memberTypes]
  refine ⟨?_, (Doc.check_isEmpty_iff.mp passes).1.params d hd, ?_, classText_eq_members variant,
    hnested, hapart.outer, ?_, ?_, fun v hv => hides_iff hapart hv, ?_, ?_⟩
  · rw [hperm.nodup_iff]
    exact List.nodup_cons.mpr ⟨hapart.outer, hnested⟩
  · intro p hp hname
    exact hparams p hp (hperm.mem_iff.mp hname)
  · intro p hp
    simpa using hparams p hp
  · intro pieces hpieces
    exact infix_classText variant pieces (List.mem_cons_of_mem _ (List.mem_cons_of_mem _ hpieces))
  · intro hfree hname
    have hresult : resultParam d.params ∈ typeVariables d := mem_typeVariables.mpr (.inr rfl)
    exact hfree _ hresult ((hides_iff hapart hresult).mpr ⟨rfl, hname⟩)
  · intro hname v hv hhidden
    obtain ⟨rfl, hmem⟩ := (hides_iff hapart hv).mp hhidden
    exact hname hmem

/-- A data type with two type parameters and two constructors. -/
def pairing : DataType :=
  ⟨"Both", ["A", "B"], [⟨"Neither", []⟩, ⟨"Pair", [⟨.cls "A" [], "a"⟩, ⟨.cls "B" [], "b"⟩]⟩]⟩

/-- Beside a record that is named like its constructor, the variant type passes the check, six
types are declared in its class, and none of its three type variables hides one of them. -/
theorem class_types_apart_pairing :
    (memberTypes pairing).map (·.name) = ["Visitor", "VisitorWithDefault", "VoidVisitor",
      "VoidVisitorWithDefault", "Neither", "Pair"] ∧
      ((memberTypes pairing).map (·.name)).Nodup ∧
      pairing.name ∉ (memberTypes pairing).map (·.name) ∧
      (["A", "B", "ResultType"] : List Text) ⊆ typeVariables pairing ∧
      ∀ v ∈ typeVariables pairing, v ∉ pairing.name :: (memberTypes pairing).map (·.name) := by
  have passes : ((⟨"", "", [], [⟨"Unit", [], [⟨"Unit", []⟩]⟩, pairing]⟩ : Doc).check
      Backend.java.rules).isEmpty = true := by
    decide
  have happly := class_types_apart passes (.tail _ (.head _)) (by decide)
  exact ⟨by decide, happly.2.2.2.2.1, happly.2.2.2.2.2.1, by decide,
    happly.2.2.2.2.2.2.2.2.2.mpr (by decide)⟩

/-- A source with a constructor that has the wanted name of the variable for the result. -/
def constructorNamesake : SourceFile :=
  { id := 0, path := "namesake.adt", content := "A = ResultType | B\n", flags := 0 }

/-- A constructor or a data type named like the variable for the result is accepted. The visitor
that binds the variable then stands beside a class of its name, or in one. -/
theorem class_type_hidden :
    (∃ doc d, constructorNamesake.parse Backend.java.wordTable = .ok doc ∧
      (doc.check Backend.java.rules).isEmpty = true ∧ d ∈ doc.types ∧
      1 < d.constructors.length ∧ visitorMember d ∈ memberTypes d ∧
      ("ResultType" : Text) ∈ (visitorMember d).params ∧
      ("ResultType" : Text) ∈ (memberTypes d).map (·.name)) ∧
    ∃ doc d, typeNamesake.parse Backend.java.wordTable = .ok doc ∧
      (doc.check Backend.java.rules).isEmpty = true ∧ d ∈ doc.types ∧
      1 < d.constructors.length ∧ visitorMember d ∈ memberTypes d ∧
      ("ResultType" : Text) ∈ (visitorMember d).params ∧ d.name = "ResultType" := by
  refine ⟨⟨⟨"namesake.adt", "", [], [⟨"A", [], [⟨"ResultType", []⟩, ⟨"B", []⟩]⟩]⟩, _, rfl,
      by decide, List.mem_cons_self, by decide, List.mem_cons_self, by decide, by decide⟩,
    ⟨⟨"namesake.adt", "", [], [⟨"ResultType", [], [⟨"A", []⟩, ⟨"B", []⟩]⟩]⟩, _, rfl, by decide,
      List.mem_cons_self, by decide, List.mem_cons_self, by decide, rfl⟩⟩

end AdtCompiler.Java
