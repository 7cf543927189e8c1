import AdtCompiler.Backend.Basic
import AdtCompiler.Proofs.Clash
import AdtCompiler.Proofs.FreshName
import AdtCompiler.Syntax.Parser

/-!
# The result of a visitor and the types around it

A visitor with a result has a type variable for it, and so has each `accept` that takes such a
visitor. The variable is chosen apart from the type parameters of the data type alone. It is never
one of them and never spelled like a visitor, but a data type or a constructor may be named like
it, and then it hides the class of that name inside the declarations that bind it.

## Contents

- `Piece`: the declarations that bind the variable, with what each identifier is meant to be
- `resolve`: what an identifier is in such a declaration, innermost first
- `resultParam_eq_iff`: which names the variable is spelled like
- `result_variable_capture`: the declarations are free of capture iff no such name is declared
-/

namespace AdtCompiler.Java

/-! ## Pieces -/

/-- What an identifier in a declaration of a visitor or of `accept` stands for. -/
inductive Meaning where
  /-- A type variable of the declaration. -/
  | own
  /-- A class that is nested in the class of the data type. -/
  | nested
  /-- A type parameter of the class that the declaration stands in. -/
  | param
  /-- The class of the data type. -/
  | outer
deriving Repr, DecidableEq

/-- A piece of a declaration. -/
inductive Piece where
  /-- Text without names of types that the unit declares. -/
  | plain (text : Text)
  /-- A type variable where it is bound. -/
  | binds (name : Text)
  /-- A name of a type and what it is meant to be. -/
  | uses (name : Text) (meaning : Meaning)
deriving Repr, DecidableEq

namespace Piece

/-- The text of a piece. -/
def text : Piece → Text
  | plain text => text
  | binds name => name
  | uses name _ => name

@[simp] theorem text_plain (t : Text) : (plain t).text = t := rfl

@[simp] theorem text_binds (name : Text) : (binds name).text = name := rfl

@[simp] theorem text_uses (name : Text) (meaning : Meaning) : (uses name meaning).text = name := rfl

/-- The type variable that a piece binds. -/
def bound? : Piece → Option Text
  | binds name => some name
  | _ => none

end Piece

/-- The text of pieces. -/
def textOf (pieces : List Piece) : Text := pieces.flatMap Piece.text

@[simp] theorem textOf_nil : textOf [] = [] := rfl

@[simp] theorem textOf_cons (p : Piece) (ps : List Piece) :
    textOf (p :: ps) = p.text ++ textOf ps := rfl

@[simp] theorem textOf_append (ps qs : List Piece) :
    textOf (ps ++ qs) = textOf ps ++ textOf qs := by
  simp [textOf]

theorem textOf_flatMap {α : Type} (xs : List α) (f : α → List Piece) :
    textOf (xs.flatMap f) = xs.flatMap fun x => textOf (f x) := by
  simp [textOf, List.flatMap_assoc]

/-- Names between angle brackets, or nothing if there are none. -/
def bracketed (names : List Piece) : List Piece :=
  if names.isEmpty then [] else .plain "<" :: names.intersperse (.plain ", ") ++ [.plain ">"]

theorem textOf_intersperse (separator : Text) (ps : List Piece) :
    textOf (ps.intersperse (.plain separator)) = Text.join separator (ps.map Piece.text) := by
  induction ps with
  | nil => rfl
  | cons p ps ih =>
    cases ps with
    | nil => simp [Text.join]
    | cons q qs =>
      rw [List.intersperse_cons_cons, textOf_cons, textOf_cons, ih]
      simp [Text.join]

@[simp] theorem textOf_bracketed (names : List Piece) :
    textOf (bracketed names) = typeParams (names.map Piece.text) := by
  cases names with
  | nil => rfl
  | cons p ps => simp [bracketed, typeParams, textOf_intersperse]

/-- The members of a list in brackets, among the pieces for the brackets and commas. -/
theorem mem_bracketed {names : List Piece} {p : Piece} (hp : ∀ t, p ≠ .plain t) :
    p ∈ bracketed names ↔ p ∈ names := by
  have hseparated : p ∈ names.intersperse (.plain ", ") ↔ p ∈ names := by
    induction names with
    | nil => simp
    | cons q qs ih =>
      cases qs with
      | nil => simp
      | cons r rs => simp [ih, hp]
  unfold bracketed
  split
  case isTrue h => simp [List.isEmpty_iff.mp h]
  case isFalse => simp [hseparated, hp]

/-! ## The declarations that bind the variable -/

/-- Type variables where they are bound. -/
def binders (names : List Text) : List Piece := bracketed (names.map .binds)

/-- Type arguments that are all of one kind. -/
def arguments (meaning : Meaning) (names : List Text) : List Piece :=
  bracketed (names.map (.uses · meaning))

/-- A method of a visitor, for an object of a class. -/
def visitPieces (d : DataType) (lead call : Text) (object : Piece) (ending : Text) : List Piece :=
  [.plain lead, .uses (resultParam d.params) .own, .plain call, object] ++
    arguments .own d.params ++ [.plain ending]

/-- The visitor with a result. -/
def visitorPieces (d : DataType) : List Piece :=
  .plain "   public static interface Visitor" :: binders (withResult d.params) ++
    .plain " \x7b\n" ::
    d.constructors.flatMap (fun c =>
      visitPieces d "      " " visit(" (.uses c.name .nested) " x);\n") ++
    [.plain "   \x7d\n\n"]

/-- The visitor with a result and a default. -/
def defaultPieces (d : DataType) : List Piece :=
  .plain "   public static abstract class VisitorWithDefault" :: binders (withResult d.params) ++
    [.plain " implements ", .uses "Visitor" .nested] ++ arguments .own (withResult d.params) ++
    .plain " \x7b\n" ::
    d.constructors.flatMap (fun c =>
      visitPieces d ("      @Override\n" ++ "      public ") " visit(" (.uses c.name .nested)
        " x) \x7b return getDefault(x); \x7d\n\n") ++
    visitPieces d "      protected abstract " " getDefault(" (.uses d.name .outer) " x);\n" ++
    [.plain "   \x7d\n\n"]

/-- The method that takes a visitor with a result. -/
def acceptPieces (d : DataType) (lead ending : Text) : List Piece :=
  let result := resultParam d.params
  [.plain lead, .binds result, .plain "> ", .uses result .own, .plain " accept(",
      .uses "Visitor" .nested] ++
    bracketed (d.params.map (.uses · .param) ++ [.uses result .own]) ++ [.plain ending]

/-- The method as the class of the data type declares it. -/
def abstractAccept (d : DataType) : List Piece :=
  acceptPieces d "   public abstract <" " visitor);\n\n"

/-- The method as the class of a constructor overrides it. -/
def overridingAccept (d : DataType) : List Piece :=
  acceptPieces d ("      " ++ "public <") " visitor) \x7b return visitor.visit(this); \x7d\n"

/-- All declarations of a data type that bind the variable for the result. -/
def resultDeclarations (d : DataType) : List (List Piece) :=
  visitorPieces d :: defaultPieces d :: abstractAccept d ::
    d.constructors.map fun _ => overridingAccept d

@[simp] theorem textOf_binders (names : List Text) : textOf (binders names) = typeParams names := by
  simp [binders, Function.comp_def]

@[simp] theorem textOf_arguments (meaning : Meaning) (names : List Text) :
    textOf (arguments meaning names) = typeParams names := by
  simp [arguments, Function.comp_def]

@[simp] theorem textOf_visitPieces (d : DataType) (lead call : Text) (object : Piece)
    (ending : Text) :
    textOf (visitPieces d lead call object ending) =
      lead ++ resultParam d.params ++ call ++ object.text ++ typeParams d.params ++ ending := by
  simp [visitPieces]

@[simp] theorem textOf_acceptPieces (d : DataType) (lead ending : Text) :
    textOf (acceptPieces d lead ending) =
      lead ++ resultParam d.params ++ "> " ++ resultParam d.params ++ " accept(Visitor" ++
        typeParams (withResult d.params) ++ ending := by
  have hliteral : (" accept(Visitor" : Text) = (" accept(" : Text) ++ ("Visitor" : Text) := by
    decide
  simp [acceptPieces, withResult, Function.comp_def, hliteral]

/-- The visitors without a result. -/
def voidVisitors (d : DataType) : Text :=
  let tp := typeParams d.params
  "   public static interface VoidVisitor" ++ tp ++ " \x7b\n" ++
    (d.constructors.flatMap fun c => ("      void visit(" ++ c.name ++ tp ++ " x);\n" : Text)) ++
    "   \x7d\n\n" ++
    "   public static abstract class VoidVisitorWithDefault" ++ tp ++ " implements VoidVisitor" ++
    tp ++ " \x7b\n" ++
    (d.constructors.flatMap fun c =>
      ("      @Override\n" ++
        "      public void visit(" ++ c.name ++ tp ++ " x) \x7b doDefault(x); \x7d\n\n" : Text)) ++
    "      protected abstract void doDefault(" ++ d.name ++ tp ++ " x);\n" ++
    "   \x7d\n\n"

/-- The class of a variant type, with the declarations that bind the variable in pieces. -/
theorem variantClass_eq (d : DataType) :
    variantClass d =
      "public abstract class " ++ d.name ++ typeParams d.params ++ " \x7b\n\n" ++
        "   private " ++ d.name ++ "() \x7b\n   \x7d\n\n" ++
        (d.constructors.flatMap fun c => (factory d.name d.params c ++ "\n" : Text)) ++ "\n" ++
        textOf (visitorPieces d) ++ textOf (defaultPieces d) ++ voidVisitors d ++
        (d.constructors.flatMap fun c => (declaration d.name d.params c ++ "\n\n" : Text)) ++
        textOf (abstractAccept d) ++
        ("   public abstract void accept(VoidVisitor" ++ typeParams d.params ++
          " visitor);\n\n" ++ "\x7d\n") := by
  have hliteral : (" implements Visitor" : Text) =
      (" implements " : Text) ++ ("Visitor" : Text) := by
    decide
  -- the equation of `variantClass` is slow to make, its definition is not
  delta variantClass visitorPieces defaultPieces voidVisitors abstractAccept
  simp only [textOf_flatMap, textOf_append, textOf_cons, textOf_nil, textOf_binders,
    textOf_arguments, textOf_visitPieces, textOf_acceptPieces, Piece.text_plain, Piece.text_uses,
    hliteral, List.append_assoc, List.append_nil]

/-- The class of a constructor, with the method that binds the variable in pieces. -/
theorem declaration_eq (d : DataType) (c : Constructor) :
    declaration d.name d.params c =
      "   public static final class " ++ c.name ++ typeParams d.params ++ " extends " ++ d.name ++
        typeParams d.params ++ " \x7b\n" ++ constructorMethod "      " "" c ++ "\n\n" ++
        "      " ++ "@Override\n" ++ textOf (overridingAccept d) ++
        ("\n" ++ "      " ++ "@Override\n" ++ "      " ++ "public void accept(VoidVisitor" ++
          typeParams d.params ++ " visitor) \x7b visitor.visit(this); \x7d\n" ++ "\n" ++
          hashCodeMethod "      " c ++ "\n\n" ++ equalsMethod "      " c d.params ++ "\n\n" ++
          toStringMethod "      " c ++ "\n\n" ++ "   \x7d") := by
  delta declaration overridingAccept
  simp only [textOf_acceptPieces, List.append_assoc]

theorem classText_of_variant {d : DataType} (h : 1 < d.constructors.length) :
    classText d = variantClass d := by
  unfold classText
  match hd : d.constructors with
  | [] => rfl
  | [c] => simp [hd] at h
  | _ :: _ :: _ => rfl

theorem infix_flatMap {α : Type} {xs : List α} {x : α} (hx : x ∈ xs) (f : α → Text) :
    f x <:+: xs.flatMap f := by
  rw [List.flatMap_def]
  exact List.infix_of_mem_flatten (List.mem_map_of_mem hx)

/-- The declarations stand in the class of the data type. -/
theorem infix_classText {d : DataType} (h : 1 < d.constructors.length) :
    ∀ pieces ∈ resultDeclarations d, textOf pieces <:+: classText d := by
  -- each declaration is followed by others in the text of the class
  have grow {part text : Text} (rest : Text) (hpart : part <:+: text) : part <:+: text ++ rest :=
    hpart.trans (List.prefix_append text rest).isInfix
  rw [classText_of_variant h, variantClass_eq]
  intro pieces hpieces
  simp only [resultDeclarations, List.mem_cons, List.mem_map] at hpieces
  rcases hpieces with rfl | rfl | rfl | ⟨c, hc, rfl⟩
  · exact grow _ (grow _ (grow _ (grow _ (List.infix_append _ _ _))))
  · exact grow _ (grow _ (grow _ (List.infix_append _ _ _)))
  · exact List.infix_append _ _ _
  · have hclass : textOf (overridingAccept d) <:+: declaration d.name d.params c := by
      rw [declaration_eq]
      exact List.infix_append _ _ _
    have hclasses := infix_flatMap hc fun c : Constructor =>
      declaration d.name d.params c ++ ("\n\n" : Text)
    refine grow _ (grow _ ?_)
    exact ((grow _ hclass).trans hclasses).trans (List.suffix_append _ _).isInfix

/-! ## Scopes -/

/-- The classes that are nested in the class of a variant type. -/
def nestedNames (d : DataType) : List Text := visitorNames ++ d.constructors.map (·.name)

/-- What a name of a type is in a declaration with type variables of its own: one of these, or a
class nested beside the declaration, or a type parameter of the class around it, or that class. The
first of these that has the name hides the others. -/
def resolve (d : DataType) (own : List Text) (name : Text) : Option Meaning :=
  if name ∈ own then some .own
  else if name ∈ nestedNames d then some .nested
  else if name ∈ d.params then some .param
  else if name = d.name then some .outer
  else none

/-- Every name of a type in a declaration is what it is meant to be. -/
def CaptureFree (d : DataType) (pieces : List Piece) : Prop :=
  ∀ name meaning, .uses name meaning ∈ pieces →
    resolve d (pieces.filterMap Piece.bound?) name = some meaning

theorem mem_bound {pieces : List Piece} {name : Text} :
    name ∈ pieces.filterMap Piece.bound? ↔ .binds name ∈ pieces := by
  rw [List.mem_filterMap]
  constructor
  · rintro ⟨p, hp, hname⟩
    cases p with
    | binds n => exact Option.some.inj hname ▸ hp
    | plain t => cases hname
    | uses n meaning => cases hname
  · exact fun h => ⟨_, h, rfl⟩

section Members

variable {name n : Text} {meaning m : Meaning} {names : List Text} {d : DataType}

@[simp] theorem binds_mem_binders : .binds name ∈ binders names ↔ name ∈ names := by
  rw [binders, mem_bracketed (by simp)]
  simp

@[simp] theorem uses_mem_binders : .uses name meaning ∈ binders names ↔ False := by
  rw [binders, mem_bracketed (by simp)]
  simp

@[simp] theorem binds_mem_arguments : .binds name ∈ arguments m names ↔ False := by
  rw [arguments, mem_bracketed (by simp)]
  simp

@[simp] theorem uses_mem_arguments :
    .uses name meaning ∈ arguments m names ↔ name ∈ names ∧ m = meaning := by
  rw [arguments, mem_bracketed (by simp)]
  simp

end Members

section Resolve

variable {d : DataType} {own : List Text} {name : Text}

theorem resolve_own (h : name ∈ own) : resolve d own name = some .own := if_pos h

theorem resolve_nested (h : name ∉ own) (hname : name ∈ nestedNames d) :
    resolve d own name = some .nested := by
  simp [resolve, h, hname]

end Resolve

/-! ## Accepted data types -/

/-- The names of a variant type are apart from each other and from those of the visitors. -/
structure Apart (d : DataType) : Prop where
  params : ∀ name ∈ d.name :: nestedNames d, name ∉ d.params
  outer : d.name ∉ nestedNames d

/-- A variant type with several constructors has a name that none of them has. -/
theorem name_not_mem_constructors {doc : Doc} (h : doc.NamesApart) {d : DataType}
    (hd : d ∈ doc.types) (variant : 1 < d.constructors.length) :
    d.name ∉ d.constructors.map (·.name) := by
  have hrecord : d.isRecord = false := by
    simp only [DataType.isRecord, beq_eq_false_iff_ne]
    omega
  have hnodup : d.declaredNames.Nodup :=
    (List.nodup_flatMap.mp h.declared).1 d hd
  simpa [DataType.declaredNames, hrecord] using (List.nodup_cons.mp hnodup).1

/-- The names of a variant type that passes the check are not those of visitors. -/
theorem not_mem_visitorNames {doc : Doc} (passes : (doc.check Backend.java.rules).isEmpty = true)
    {d : DataType} (hd : d ∈ doc.types) (variant : 1 < d.constructors.length) {name : Text}
    (hname : name ∈ boundNames d) : name ∉ visitorNames := by
  have hrules := (Doc.check_isEmpty_iff.mp passes).2
  have hnone : typeFindings d = [] :=
    List.flatMap_eq_nil_iff.mp (hrules nameRule List.mem_cons_self) d hd
  have hrecord : d.isRecord = false := by
    simp only [DataType.isRecord, beq_eq_false_iff_ne]
    omega
  have hbound : ∀ name ∈ boundNames d, name ∉ visitorNames := by
    simpa [typeFindings, hrecord] using hnone
  exact hbound name hname

theorem apart_of_check {doc : Doc} (passes : (doc.check Backend.java.rules).isEmpty = true)
    {d : DataType} (hd : d ∈ doc.types) (variant : 1 < d.constructors.length) : Apart d := by
  have hapart := (Doc.check_isEmpty_iff.mp passes).1
  constructor
  · intro name hname hparam
    rcases List.mem_cons.mp hname with rfl | hname
    · exact hapart.notOwn d hd hparam
    · rcases List.mem_append.mp hname with hvisitor | hconstructor
      · exact not_mem_visitorNames passes hd variant (by simp [boundNames, hparam]) hvisitor
      · obtain ⟨c, hc, rfl⟩ := List.mem_map.mp hconstructor
        exact hapart.notConstructor d hd c hc hparam
  · intro hname
    rcases List.mem_append.mp hname with hvisitor | hconstructor
    · exact not_mem_visitorNames passes hd variant (by simp [boundNames]) hvisitor
    · exact name_not_mem_constructors hapart hd variant hconstructor

section CaptureFree

variable {d : DataType}

theorem mem_own_visitorPieces {name : Text} :
    name ∈ (visitorPieces d).filterMap Piece.bound? ↔ name ∈ withResult d.params := by
  rw [mem_bound]
  simp [visitorPieces, visitPieces]

theorem mem_own_defaultPieces {name : Text} :
    name ∈ (defaultPieces d).filterMap Piece.bound? ↔ name ∈ withResult d.params := by
  rw [mem_bound]
  simp [defaultPieces, visitPieces]

theorem mem_own_acceptPieces {lead ending name : Text} :
    name ∈ (acceptPieces d lead ending).filterMap Piece.bound? ↔ name = resultParam d.params := by
  rw [mem_bound]
  simp [acceptPieces, mem_bracketed]

/-- A method of a visitor names the class of its object and the variables of the visitor. -/
theorem uses_mem_visitPieces {lead call ending name : Text} {object : Piece} {meaning : Meaning} :
    .uses name meaning ∈ visitPieces d lead call object ending ↔
      .uses name meaning = object ∨ name ∈ withResult d.params ∧ meaning = .own := by
  simp only [visitPieces, withResult, List.mem_append, List.mem_cons, uses_mem_arguments,
    List.not_mem_nil, or_false, reduceCtorEq, false_or, Piece.uses.injEq]
  grind

theorem nested_mem_visitorPieces {c : Constructor} (hc : c ∈ d.constructors) :
    .uses c.name .nested ∈ visitorPieces d := by
  have hmethod : .uses c.name .nested ∈ d.constructors.flatMap fun c =>
      visitPieces d "      " " visit(" (.uses c.name .nested) " x);\n" :=
    List.mem_flatMap.mpr ⟨c, hc, uses_mem_visitPieces.mpr (.inl rfl)⟩
  simp only [visitorPieces, List.mem_append, List.mem_cons]
  exact .inl (.inr (.inr hmethod))

theorem outer_mem_defaultPieces : .uses d.name .outer ∈ defaultPieces d := by
  simp only [defaultPieces, List.mem_append]
  exact .inl (.inr (uses_mem_visitPieces.mpr (.inl rfl)))

/-- No class that a visitor names is hidden by its variables. -/
def Unhidden (d : DataType) : Prop := ∀ name ∈ d.name :: nestedNames d, name ∉ withResult d.params

theorem Unhidden.constructor (h : Unhidden d) {c : Constructor} (hc : c ∈ d.constructors)
    {own : List Text} (hown : own ⊆ withResult d.params) :
    resolve d own c.name = some .nested := by
  have hname : c.name ∈ nestedNames d := List.mem_append_right _ (List.mem_map_of_mem hc)
  exact resolve_nested (fun hmem => h _ (List.mem_cons_of_mem _ hname) (hown hmem)) hname

theorem Unhidden.visitor (h : Unhidden d) {own : List Text} (hown : own ⊆ withResult d.params) :
    resolve d own "Visitor" = some .nested := by
  have hname : ("Visitor" : Text) ∈ nestedNames d := List.mem_append_left _ (by decide)
  exact resolve_nested (fun hmem => h _ (List.mem_cons_of_mem _ hname) (hown hmem)) hname

theorem captureFree_visitorPieces (h : Unhidden d) : CaptureFree d (visitorPieces d) := by
  intro name meaning huses
  simp only [visitorPieces, List.mem_append, List.mem_cons, List.mem_flatMap,
    uses_mem_visitPieces, uses_mem_binders, List.not_mem_nil, or_false, reduceCtorEq,
    false_or] at huses
  obtain ⟨c, hc, huses | ⟨hname, rfl⟩⟩ := huses
  · obtain ⟨rfl, rfl⟩ := Piece.uses.inj huses
    exact h.constructor hc fun _ => mem_own_visitorPieces.mp
  · exact resolve_own (mem_own_visitorPieces.mpr hname)

theorem captureFree_defaultPieces (hapart : Apart d) (h : Unhidden d) :
    CaptureFree d (defaultPieces d) := by
  intro name meaning huses
  simp only [defaultPieces, List.mem_append, List.mem_cons, List.mem_flatMap,
    uses_mem_visitPieces, uses_mem_binders, uses_mem_arguments, List.not_mem_nil, or_false,
    reduceCtorEq, false_or] at huses
  rcases huses with
    (((huses | ⟨hname, rfl⟩) | ⟨c, hc, huses | ⟨hname, rfl⟩⟩) | huses | ⟨hname, rfl⟩)
  · obtain ⟨rfl, rfl⟩ := Piece.uses.inj huses
    exact h.visitor fun _ => mem_own_defaultPieces.mp
  · exact resolve_own (mem_own_defaultPieces.mpr hname)
  · obtain ⟨rfl, rfl⟩ := Piece.uses.inj huses
    exact h.constructor hc fun _ => mem_own_defaultPieces.mp
  · exact resolve_own (mem_own_defaultPieces.mpr hname)
  · -- The class of the data type is the outermost, so nothing at all may have its name.
    obtain ⟨rfl, rfl⟩ := Piece.uses.inj huses
    have hown : d.name ∉ (defaultPieces d).filterMap Piece.bound? := fun hmem =>
      h _ List.mem_cons_self (mem_own_defaultPieces.mp hmem)
    simp [resolve, hown, hapart.outer, hapart.params d.name List.mem_cons_self]
  · exact resolve_own (mem_own_defaultPieces.mpr hname)

theorem captureFree_acceptPieces (hapart : Apart d) (h : Unhidden d) (lead ending : Text) :
    CaptureFree d (acceptPieces d lead ending) := by
  have hown : (acceptPieces d lead ending).filterMap Piece.bound? ⊆ withResult d.params := by
    intro name hname
    simp [withResult, mem_own_acceptPieces.mp hname]
  intro name meaning huses
  simp only [acceptPieces, List.mem_append, List.mem_cons, List.mem_map,
    mem_bracketed (p := .uses name meaning) (by simp), List.not_mem_nil, or_false, reduceCtorEq,
    false_or] at huses
  rcases huses with (huses | huses) | ⟨param, hparam, huses⟩ | huses
  · obtain ⟨rfl, rfl⟩ := Piece.uses.inj huses
    exact resolve_own (mem_own_acceptPieces.mpr rfl)
  · obtain ⟨rfl, rfl⟩ := Piece.uses.inj huses
    exact h.visitor hown
  · obtain ⟨rfl, rfl⟩ := Piece.uses.inj huses
    -- the variable of the method was chosen apart from the parameters
    have hfresh : param ∉ (acceptPieces d lead ending).filterMap Piece.bound? := by
      rw [mem_own_acceptPieces]
      rintro rfl
      exact FreshName.choose_not_mem _ _ hparam
    have hnested : param ∉ nestedNames d := fun hmem =>
      hapart.params param (List.mem_cons_of_mem _ hmem) hparam
    simp [resolve, hfresh, hnested, hparam]
  · obtain ⟨rfl, rfl⟩ := Piece.uses.inj huses
    exact resolve_own (mem_own_acceptPieces.mpr rfl)

end CaptureFree

/-! ## The spelling of the variable -/

theorem resultParam_not_mem_params (params : List Text) : resultParam params ∉ params :=
  FreshName.choose_not_mem _ params

theorem resultParam_not_mem_visitorNames (params : List Text) :
    resultParam params ∉ visitorNames := by
  have hstart : ("ResultType" : Text) <+: resultParam params := FreshName.extends_choose _ params
  have hnone : ∀ name ∈ visitorNames, ¬("ResultType" : Text) <+: name := by decide
  exact fun hmem => hnone _ hmem hstart

/-- The variable is the wanted name with the least number that no type parameter has. -/
theorem resultParam_eq_iff {params : List Text} {name : Text} (h : name ∉ params) :
    resultParam params = name ↔ ∃ k, name = FreshName.candidate "ResultType" k ∧
      ∀ j < k, FreshName.candidate "ResultType" j ∈ params := by
  obtain ⟨k, heq, hfree, hbefore⟩ := FreshName.exists_choose "ResultType" params
  constructor
  · rintro rfl
    exact ⟨k, heq, hbefore⟩
  · rintro ⟨n, rfl, hearlier⟩
    have hk : k = n := by
      rcases Nat.lt_trichotomy k n with hlt | hk | hlt
      · exact absurd (hearlier k hlt) hfree
      · exact hk
      · exact absurd (hbefore n hlt) h
    exact hk ▸ heq

/-- The declarations are free of capture iff the variable is spelled like no class that they
name. -/
theorem captureFree_iff {d : DataType} (hapart : Apart d) :
    (∀ pieces ∈ resultDeclarations d, CaptureFree d pieces) ↔
      resultParam d.params ∉ d.name :: d.constructors.map (·.name) := by
  have hvariable : resultParam d.params ∈ withResult d.params := by simp [withResult]
  constructor
  · intro hfree hmem
    rcases List.mem_cons.mp hmem with heq | hmem
    · -- The default takes an object of the data type, but the variable has its name.
      have hmeant := hfree _ (.tail _ (.head _)) _ _ (outer_mem_defaultPieces (d := d))
      rw [← heq, resolve_own (mem_own_defaultPieces.mpr hvariable)] at hmeant
      cases hmeant
    · obtain ⟨c, hc, heq⟩ := List.mem_map.mp hmem
      have hmeant := hfree _ (.head _) _ _ (nested_mem_visitorPieces hc)
      rw [heq, resolve_own (mem_own_visitorPieces.mpr hvariable)] at hmeant
      cases hmeant
  · intro hname
    have h : Unhidden d := by
      intro name hmem hhidden
      rcases List.mem_append.mp hhidden with hparam | hresult
      · exact hapart.params name hmem hparam
      · cases List.mem_singleton.mp hresult
        rcases List.mem_cons.mp hmem with heq | hmem
        · exact hname (heq ▸ List.mem_cons_self)
        · rcases List.mem_append.mp hmem with hvisitor | hconstructor
          · exact resultParam_not_mem_visitorNames _ hvisitor
          · exact hname (List.mem_cons_of_mem _ hconstructor)
    intro pieces hpieces
    simp only [resultDeclarations, List.mem_cons, List.mem_map] at hpieces
    rcases hpieces with rfl | rfl | rfl | ⟨-, -, rfl⟩
    · exact captureFree_visitorPieces h
    · exact captureFree_defaultPieces hapart h
    · exact captureFree_acceptPieces hapart h _ _
    · exact captureFree_acceptPieces hapart h _ _

/-- **What the variable for the result captures.** In documents that pass the check it is no type
parameter and no visitor. It is the name of the data type or of a constructor iff that name is the
first of `ResultType`, `ResultType1` and so on that is no type parameter, and the declarations that
bind it are free of capture iff there is no such name. -/
theorem result_variable_capture {doc : Doc}
    (passes : (doc.check Backend.java.rules).isEmpty = true) {d : DataType} (hd : d ∈ doc.types)
    (variant : 1 < d.constructors.length) :
    resultParam d.params ∉ d.params ∧ resultParam d.params ∉ visitorNames ∧
      (∀ name ∈ d.name :: d.constructors.map (·.name), resultParam d.params = name ↔
        ∃ k, name = FreshName.candidate "ResultType" k ∧
          ∀ j < k, FreshName.candidate "ResultType" j ∈ d.params) ∧
      (∀ pieces ∈ resultDeclarations d, textOf pieces <:+: classText d) ∧
      ((∀ pieces ∈ resultDeclarations d, CaptureFree d pieces) ↔
        resultParam d.params ∉ d.name :: d.constructors.map (·.name)) := by
  have hapart := apart_of_check passes hd variant
  refine ⟨resultParam_not_mem_params _, resultParam_not_mem_visitorNames _, ?_,
    infix_classText variant, captureFree_iff hapart⟩
  intro name hname
  refine resultParam_eq_iff (hapart.params name ?_)
  rcases List.mem_cons.mp hname with rfl | hname
  · exact List.mem_cons_self
  · exact List.mem_cons_of_mem _ (List.mem_append_right _ hname)

/-- A data type whose type parameter has the wanted name of the variable. -/
def parameterNamesake : DataType :=
  ⟨"Choice", ["ResultType"], [⟨"None", []⟩, ⟨"Some", [⟨.cls "ResultType" [], "value"⟩]⟩]⟩

/-- A type parameter of the wanted name makes the variable step aside, and nothing is hidden. -/
theorem result_variable_steps_aside :
    resultParam parameterNamesake.params = "ResultType1" ∧
      ∀ pieces ∈ resultDeclarations parameterNamesake, CaptureFree parameterNamesake pieces := by
  have passes :
      ((⟨"", "", [], [parameterNamesake]⟩ : Doc).check Backend.java.rules).isEmpty = true := by
    decide
  have hcapture := result_variable_capture passes List.mem_cons_self (by decide)
  exact ⟨by decide +kernel, hcapture.2.2.2.2.mpr (by decide)⟩

/-- A source with a data type that has the wanted name of the variable. -/
def typeNamesake : SourceFile :=
  { id := 0, path := "namesake.adt", content := "ResultType = A | B\n", flags := 0 }

/-- A data type of the wanted name is accepted, and the variable hides it where the default of a
visitor takes an object of it. -/
theorem result_variable_hides_type :
    ∃ doc d, typeNamesake.parse Backend.java.wordTable = .ok doc ∧
      (doc.check Backend.java.rules).isEmpty = true ∧ d ∈ doc.types ∧
      1 < d.constructors.length ∧ resultParam d.params = d.name ∧
      textOf (defaultPieces d) <:+: classText d ∧ ¬CaptureFree d (defaultPieces d) := by
  refine ⟨⟨"namesake.adt", "", [], [⟨"ResultType", [], [⟨"A", []⟩, ⟨"B", []⟩]⟩]⟩, _, rfl, by decide,
    List.mem_cons_self, by decide, by decide, infix_classText (by decide) _ (.tail _ (.head _)),
    fun hfree => ?_⟩
  have hmeant := hfree _ _ outer_mem_defaultPieces
  rw [resolve_own (mem_own_defaultPieces.mpr (by decide))] at hmeant
  cases hmeant

end AdtCompiler.Java
