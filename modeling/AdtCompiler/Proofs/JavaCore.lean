import AdtCompiler.Proofs.JavaMethod
import AdtCompiler.Proofs.JavaScope
import AdtCompiler.Proofs.Readable

/-!
# Types of the language in generated classes

A generated class names types that every unit has without an import: those of the methods it
overrides, annotations, and the boxes of primitives. It does so by simple names, which the class
itself may bind to something else: to a type parameter, to a class nested in it, or to itself.

None of the names that are made up in the class is one of these. Names that are declared may be,
since neither the reader nor the check keeps them apart.

## Contents

- `Part`: texts of a class with the names of such types told apart
- `classParts`: the class of a data type in parts, with `joined_classParts`
- `core_mem_classParts`: which types of the language a class names
- `allFree_classParts`: the fixed texts of a class name none
- `core_types_captured`: these names keep their meaning iff no declared name is one of them
-/

namespace AdtCompiler.Java

/-! ## Parts -/

/-- A part of a generated class. -/
inductive Part where
  /-- Text that is the same in all classes. -/
  | fixed (text : Text)
  /-- Names that the class binds or that the document has for types from elsewhere. -/
  | given (text : Text)
  /-- The name of a type of the language. -/
  | core (name : Text)
deriving Repr, DecidableEq

namespace Part

/-- The text of a part. -/
def text : Part → Text
  | fixed text => text
  | given text => text
  | core name => name

@[simp] theorem text_fixed (t : Text) : (fixed t).text = t := rfl

@[simp] theorem text_given (t : Text) : (given t).text = t := rfl

@[simp] theorem text_core (name : Text) : (core name).text = name := rfl

end Part

/-- The text of parts. -/
def joined (parts : List Part) : Text := parts.flatMap Part.text

/-- Parts under a condition. -/
def optional (condition : Bool) (parts : List Part) : List Part := if condition then parts else []

/-- Parts for each member of a list. -/
def each {α : Type} (xs : List α) (f : α → List Part) : List Part := xs.flatMap f

@[simp] theorem joined_nil : joined [] = [] := rfl

@[simp] theorem joined_cons (p : Part) (ps : List Part) :
    joined (p :: ps) = p.text ++ joined ps := rfl

@[simp] theorem joined_append (ps qs : List Part) : joined (ps ++ qs) = joined ps ++ joined qs := by
  simp [joined]

@[simp] theorem joined_optional (condition : Bool) (parts : List Part) :
    joined (optional condition parts) = Text.when condition (joined parts) := by
  cases condition <;> rfl

@[simp] theorem joined_each {α : Type} (xs : List α) (f : α → List Part) :
    joined (each xs f) = xs.flatMap fun x => joined (f x) := by
  simp [joined, each, List.flatMap_assoc]

section Members

variable {p : Part}

@[simp] theorem mem_optional {condition : Bool} {parts : List Part} :
    p ∈ optional condition parts ↔ condition = true ∧ p ∈ parts := by
  cases condition <;> simp [optional]

@[simp] theorem mem_each {α : Type} {xs : List α} {f : α → List Part} :
    p ∈ each xs f ↔ ∃ x ∈ xs, p ∈ f x := List.mem_flatMap

end Members

/-! ## Types -/

mutual

/-- A type in parts. -/
def typeParts : Ty → List Part
  | .prim p => [.fixed p.name]
  | .cls name args =>
    match args with
    | [] => [.given name]
    | arg :: rest =>
      [.given name, .fixed "<"] ++ argumentParts arg ++ furtherParts rest ++ [.fixed ">"]
  | .array elem => typeParts elem ++ [.fixed "[]"]
  | .absent => []

/-- A type argument in parts. A primitive is spelled as its box. -/
def argumentParts : Ty → List Part
  | .prim p => [.core p.javaBox]
  | .cls name args =>
    match args with
    | [] => [.given name]
    | arg :: rest =>
      [.given name, .fixed "<"] ++ argumentParts arg ++ furtherParts rest ++ [.fixed ">"]
  | .array elem => typeParts elem ++ [.fixed "[]"]
  | .absent => []

/-- The type arguments behind the first in parts. -/
def furtherParts : List Ty → List Part
  | [] => []
  | arg :: rest => [.fixed ", "] ++ argumentParts arg ++ furtherParts rest

end

mutual

theorem joined_typeParts : ∀ t : Ty, joined (typeParts t) = t.javaText
  | .prim p => by simp [typeParts, Ty.javaText]
  | .cls name [] => by simp [typeParts, Ty.javaText]
  | .cls name (arg :: rest) => by
    simp [typeParts, Ty.javaText, joined_argumentParts arg, joined_furtherParts rest]
  | .array elem => by simp [typeParts, Ty.javaText, joined_typeParts elem]
  | .absent => by simp [typeParts, Ty.javaText]

theorem joined_argumentParts : ∀ t : Ty, joined (argumentParts t) = t.javaArg
  | .prim p => by simp [argumentParts, Ty.javaArg]
  | .cls name [] => by simp [argumentParts, Ty.javaArg]
  | .cls name (arg :: rest) => by
    simp [argumentParts, Ty.javaArg, joined_argumentParts arg, joined_furtherParts rest]
  | .array elem => by simp [argumentParts, Ty.javaArg, joined_typeParts elem]
  | .absent => by simp [argumentParts, Ty.javaArg]

theorem joined_furtherParts : ∀ ts : List Ty, joined (furtherParts ts) = Ty.javaArgs ts
  | [] => by simp [furtherParts, Ty.javaArgs]
  | arg :: rest => by
    simp [furtherParts, Ty.javaArgs, joined_argumentParts arg, joined_furtherParts rest]

end

/-- The parameters of a method in parts. -/
def argListParts : List Arg → List Part
  | [] => []
  | [a] => typeParts a.type ++ [.fixed " ", .given a.name]
  | a :: rest => typeParts a.type ++ [.fixed " ", .given a.name, .fixed ", "] ++ argListParts rest

theorem joined_argListParts (args : List Arg) : joined (argListParts args) = argList args := by
  induction args with
  | nil => rfl
  | cons a rest ih =>
    cases rest with
    | nil => simp [argListParts, argList, Text.join, joined_typeParts]
    | cons b rest =>
      rw [argListParts, joined_append, ih]
      · simp [argList, Text.join, joined_typeParts]
      · simp

/-! ## Members -/

/-- An annotation that a method overrides another. -/
def overrides (indent : Text) : List Part :=
  [.fixed indent, .fixed "@", .core "Override", .fixed "\n"]

/-- An annotation that a warning is not wanted. -/
def suppresses (indent warning : Text) : List Part :=
  [.fixed indent, .fixed "@", .core "SuppressWarnings", .fixed "(\"", .fixed warning,
    .fixed "\")\n"]

/-- The hash of a field in parts. -/
def hashParts (read : Text) : HashForm → List Part
  | .value => [.given read]
  | .truth => [.fixed "(", .given read, .fixed " ? 1231 : 1237)"]
  | .long => [.fixed "(int)(", .given read, .fixed " ^ (", .given read, .fixed " >>> 32))"]
  | .doubleBits =>
    [.fixed "(int)(", .core "Double", .fixed ".doubleToLongBits(", .given read, .fixed ") ^ (",
      .core "Double", .fixed ".doubleToLongBits(", .given read, .fixed ") >>> 32))"]
  | .floatBits => [.core "Float", .fixed ".floatToIntBits(", .given read, .fixed ")"]
  | .array deep =>
    [.fixed (arraysMethod deep "hashCode" "deepHashCode"), .fixed "(", .given read, .fixed ")"]
  | .object =>
    [.fixed "((", .given read, .fixed " == null) ? 0 : ", .given read, .fixed ".hashCode())"]

/-- The comparison of a field in parts. -/
def equalParts (indent own other : Text) : EqualForm → List Part
  | .value =>
    [.fixed indent, .fixed "if (", .given own, .fixed " != ", .given other,
      .fixed ") return false;\n"]
  | .doubleBits =>
    [.fixed indent, .fixed "if (", .core "Double", .fixed ".doubleToLongBits(", .given own,
      .fixed ") != ", .core "Double", .fixed ".doubleToLongBits(", .given other,
      .fixed ")) return false;\n"]
  | .floatBits =>
    [.fixed indent, .fixed "if (", .core "Float", .fixed ".floatToIntBits(", .given own,
      .fixed ") != ", .core "Float", .fixed ".floatToIntBits(", .given other,
      .fixed ")) return false;\n"]
  | .array deep =>
    [.fixed indent, .fixed "if (!", .fixed (arraysMethod deep "equals" "deepEquals"), .fixed "(",
      .given own, .fixed ", ", .given other, .fixed ")) return false;\n"]
  | .object =>
    [.fixed indent, .fixed "if (", .given own, .fixed " == null) \x7b\n",
      .fixed indent, .fixed "   if (", .given other, .fixed " != null) return false;\n",
      .fixed indent, .fixed "\x7d else if (!", .given own, .fixed ".equals(", .given other,
      .fixed ")) return false;\n"]

/-- The fields of a class and the method that sets them, in parts. -/
def constructorParts (indent modifiers : Text) (c : Constructor) : List Part :=
  List.flatten
    [each c.args fun a => List.flatten [[.fixed indent, .fixed "public final "],
        typeParts a.type, [.fixed " ", .given a.name, .fixed ";\n"]],
      optional (!c.args.isEmpty) [.fixed "\n"],
      [.fixed indent, .fixed modifiers, .given c.name, .fixed "("], argListParts c.args,
      [.fixed ") \x7b\n"],
      each c.args fun a => [.fixed indent, .fixed "   this.", .given a.name, .fixed " = ",
        .given a.name, .fixed ";\n"],
      [.fixed indent, .fixed "\x7d"]]

/-- The method for hash codes in parts. -/
def hashCodeParts (indent : Text) (c : Constructor) : List Part :=
  List.flatten
    [overrides indent, [.fixed indent, .fixed "public int hashCode() \x7b\n"],
      optional c.args.isEmpty [.fixed indent, .fixed "   return 0;\n"],
      optional (!c.args.isEmpty)
        (List.flatten
          [[.fixed indent, .fixed "   final int prime = 31;\n",
              .fixed indent, .fixed "   int result = 1;\n"],
            each (hashSteps c) fun (name, form) =>
              List.flatten [[.fixed indent, .fixed "   result = prime * result + "],
                hashParts (ownField name) form, [.fixed ";\n"]],
            [.fixed indent, .fixed "   return result;\n"]]),
      [.fixed indent, .fixed "\x7d"]]

/-- The method for equality in parts. -/
def equalsParts (indent : Text) (c : Constructor) (params : List Text) : List Part :=
  List.flatten
    [overrides indent,
      [.fixed indent, .fixed "public boolean equals(", .core "Object", .fixed " obj) \x7b\n",
        .fixed indent, .fixed "   if (this == obj) return true;\n",
        .fixed indent, .fixed "   if (obj == null) return false;\n",
        .fixed indent, .fixed "   if (getClass() != obj.getClass()) return false;\n"],
      optional (!c.args.isEmpty)
        (List.flatten
          [optional (!params.isEmpty) (suppresses (indent ++ "   ") "rawtypes"),
            [.fixed indent, .fixed "   ", .given c.name, .fixed " other = (", .given c.name,
              .fixed ")obj;\n"],
            each (equalSteps c) fun (name, form) =>
              equalParts (indent ++ "   ") (ownField name) (otherField name) form]),
      [.fixed indent, .fixed "   return true;\n", .fixed indent, .fixed "\x7d"]]

/-- A field as the printed form shows it, in parts. -/
def fieldStringParts (a : Arg) : List Part :=
  match a.type with
  | .array elem =>
    [.fixed (arraysMethod (isDeep elem) "toString" "deepToString"), .fixed "(",
      .given (ownField a.name), .fixed ")"]
  | _ => [.given (ownField a.name)]

/-- The fields of a printed form in parts. -/
def fieldStringsParts (separator : Text) : List Arg → List Part
  | [] => []
  | a :: rest =>
    List.flatten
      [[.fixed separator, .given a.name, .fixed " = \" + "], fieldStringParts a,
        [.fixed " + \""], fieldStringsParts ", " rest]

/-- The method for the printed form in parts. -/
def toStringParts (indent : Text) (c : Constructor) : List Part :=
  List.flatten
    [overrides indent,
      [.fixed indent, .fixed "public ", .core "String", .fixed " toString() \x7b\n",
        .fixed indent, .fixed "   return \"", .given c.name],
      fieldStringsParts "(" c.args, optional (!c.args.isEmpty) [.fixed ")"],
      [.fixed "\";\n", .fixed indent, .fixed "\x7d"]]

/-- The static method that builds a constructor, in parts. -/
def factoryParts (result impl : Text) (params : List Text) (c : Constructor) : List Part :=
  List.flatten
    [optional c.args.isEmpty
        (List.flatten
          [optional (!params.isEmpty) (suppresses "   " "rawtypes"),
            [.fixed "   private static final ", .given result, .fixed " _", .given c.name,
              .fixed " = new ", .given impl, .fixed "();\n"],
            optional (!params.isEmpty) (suppresses "   " "unchecked")]),
      [.fixed "   public static final "],
      optional (!params.isEmpty) [.given (typeParams params), .fixed " "],
      [.given result, .given (typeParams params), .fixed " _", .given c.name, .fixed "("],
      argListParts c.args, [.fixed ") \x7b return "],
      optional c.args.isEmpty [.fixed "_", .given c.name],
      optional (!c.args.isEmpty)
        [.fixed "new ", .given impl, .given (typeParams params), .fixed "(",
          .given (argNames c.args), .fixed ")"],
      [.fixed "; \x7d"]]

section Texts

open Text (ofString_append ofString_append_append)

theorem joined_hashParts (read : Text) (form : HashForm) :
    joined (hashParts read form) = form.text read := by
  cases form <;>
    simp only [hashParts, HashForm.text, joined_cons, joined_nil, Part.text_fixed, Part.text_given,
      Part.text_core, List.append_assoc, List.append_nil, ofString_append, ofString_append_append,
      String.reduceAppend]

theorem joined_equalParts (indent own other : Text) (form : EqualForm) :
    joined (equalParts indent own other form) = form.text indent own other := by
  cases form <;>
    simp only [equalParts, EqualForm.text, joined_cons, joined_nil, Part.text_fixed,
      Part.text_given, Part.text_core, List.append_assoc, List.append_nil, ofString_append_append,
      String.reduceAppend]

theorem joined_constructorParts (indent modifiers : Text) (c : Constructor) :
    joined (constructorParts indent modifiers c) = constructorMethod indent modifiers c := by
  simp only [constructorParts, constructorMethod, List.flatten_cons, List.flatten_nil,
    joined_append, joined_cons, joined_nil, joined_each, joined_optional, joined_typeParts,
    joined_argListParts, Part.text_fixed, Part.text_given, List.append_assoc, List.append_nil]

theorem joined_hashCodeParts (indent : Text) (c : Constructor) :
    joined (hashCodeParts indent c) = hashCodeMethod indent c := by
  cases hargs : c.args.isEmpty <;>
    simp only [hashCodeParts, hashCodeMethod, overrides, hargs, List.flatten_cons, List.flatten_nil,
      joined_append, joined_cons, joined_nil, joined_each, joined_optional, joined_hashParts,
      Part.text_fixed, Part.text_core, Text.when, Bool.not_true, Bool.not_false, Bool.false_eq_true,
      if_true, if_false, List.append_assoc, List.append_nil, List.nil_append, ofString_append,
      String.reduceAppend]

theorem joined_equalsParts (indent : Text) (c : Constructor) (params : List Text) :
    joined (equalsParts indent c params) = equalsMethod indent c params := by
  simp only [equalsParts, equalsMethod, overrides, suppresses, List.flatten_cons, List.flatten_nil,
    joined_append, joined_cons, joined_nil, joined_each, joined_optional, joined_equalParts,
    Part.text_fixed, Part.text_given, Part.text_core, List.append_assoc, List.append_nil,
    ofString_append, ofString_append_append, String.reduceAppend]

theorem joined_fieldStringParts (a : Arg) : joined (fieldStringParts a) = fieldString a := by
  cases htype : a.type <;> simp [fieldStringParts, fieldString, htype]

theorem joined_fieldStringsParts (separator : Text) (args : List Arg) :
    joined (fieldStringsParts separator args) = fieldStrings separator args := by
  induction args generalizing separator with
  | nil => rfl
  | cons a rest ih => simp [fieldStringsParts, fieldStrings, joined_fieldStringParts, ih]

theorem joined_toStringParts (indent : Text) (c : Constructor) :
    joined (toStringParts indent c) = toStringMethod indent c := by
  simp only [toStringParts, toStringMethod, overrides, List.flatten_cons, List.flatten_nil,
    joined_append, joined_cons, joined_nil, joined_optional, joined_fieldStringsParts,
    Part.text_fixed, Part.text_given, Part.text_core, List.append_assoc, List.append_nil,
    ofString_append, ofString_append_append, String.reduceAppend]

theorem joined_factoryParts (result impl : Text) (params : List Text) (c : Constructor) :
    joined (factoryParts result impl params c) = factoryOf result impl params c := by
  -- a constructor without arguments has an empty list of parameters
  have hnone (hargs : c.args.isEmpty = true) : argList c.args = [] := by
    rw [List.isEmpty_iff.mp hargs]
    rfl
  cases hargs : c.args.isEmpty with
  | true =>
    simp only [factoryParts, factoryOf, suppresses, hargs, hnone hargs, List.flatten_cons,
      List.flatten_nil, joined_append, joined_cons, joined_nil, joined_optional,
      joined_argListParts, Part.text_fixed, Part.text_given, Part.text_core, Text.when,
      Bool.not_true, Bool.false_eq_true, if_true, if_false, List.append_assoc, List.append_nil,
      List.nil_append, ofString_append, ofString_append_append, String.reduceAppend]
  | false =>
    simp only [factoryParts, factoryOf, hargs, List.flatten_cons, List.flatten_nil, joined_append,
      joined_cons, joined_nil, joined_optional, joined_argListParts, Part.text_fixed,
      Part.text_given, Text.when, Bool.not_false, Bool.false_eq_true, if_true, if_false,
      List.append_assoc, List.append_nil, List.nil_append, ofString_append, ofString_append_append,
      String.reduceAppend]

end Texts

/-! ## Classes -/

/-- The nested class of a constructor in parts. -/
def declarationParts (dataType : Text) (params : List Text) (c : Constructor) : List Part :=
  List.flatten
    [[.fixed "   public static final class ", .given c.name, .given (typeParams params),
        .fixed " extends ", .given dataType, .given (typeParams params), .fixed " \x7b\n"],
      constructorParts "      " "" c, [.fixed "\n\n"],
      overrides "      ",
      [.fixed "      public <", .given (resultParam params), .fixed "> ",
        .given (resultParam params), .fixed " accept(Visitor",
        .given (typeParams (withResult params)),
        .fixed " visitor) \x7b return visitor.visit(this); \x7d\n\n"],
      overrides "      ",
      [.fixed "      public void accept(VoidVisitor", .given (typeParams params),
        .fixed " visitor) \x7b visitor.visit(this); \x7d\n\n"],
      hashCodeParts "      " c, [.fixed "\n\n"],
      equalsParts "      " c params, [.fixed "\n\n"],
      toStringParts "      " c, [.fixed "\n\n   \x7d"]]

/-- The class of a record in parts. -/
def recordParts (d : DataType) (c : Constructor) : List Part :=
  let own : Constructor := { c with name := d.name }
  List.flatten
    [[.fixed "public final class ", .given d.name, .given (typeParams d.params),
        .fixed " \x7b\n\n"],
      factoryParts d.name d.name d.params c, [.fixed "\n\n"],
      constructorParts "   " "public " own, [.fixed "\n\n"],
      hashCodeParts "   " own, [.fixed "\n\n"],
      equalsParts "   " own d.params, [.fixed "\n\n"],
      toStringParts "   " own, [.fixed "\n\n\x7d\n"]]

/-- The visitors of a variant type in parts. -/
def visitorParts (d : DataType) : List Part :=
  let tp := typeParams d.params
  let vtp := typeParams (withResult d.params)
  let result := resultParam d.params
  List.flatten
    [[.fixed "   public static interface Visitor", .given vtp, .fixed " \x7b\n"],
      each d.constructors fun c =>
        [.fixed "      ", .given result, .fixed " visit(", .given c.name, .given tp,
          .fixed " x);\n"],
      [.fixed "   \x7d\n\n", .fixed "   public static abstract class VisitorWithDefault",
        .given vtp, .fixed " implements Visitor", .given vtp, .fixed " \x7b\n"],
      each d.constructors fun c =>
        List.flatten [overrides "      ",
          [.fixed "      public ", .given result, .fixed " visit(", .given c.name, .given tp,
            .fixed " x) \x7b return getDefault(x); \x7d\n\n"]],
      [.fixed "      protected abstract ", .given result, .fixed " getDefault(", .given d.name,
        .given tp, .fixed " x);\n", .fixed "   \x7d\n\n",
        .fixed "   public static interface VoidVisitor", .given tp, .fixed " \x7b\n"],
      each d.constructors fun c =>
        [.fixed "      void visit(", .given c.name, .given tp, .fixed " x);\n"],
      [.fixed "   \x7d\n\n", .fixed "   public static abstract class VoidVisitorWithDefault",
        .given tp, .fixed " implements VoidVisitor", .given tp, .fixed " \x7b\n"],
      each d.constructors fun c =>
        List.flatten [overrides "      ",
          [.fixed "      public void visit(", .given c.name, .given tp,
            .fixed " x) \x7b doDefault(x); \x7d\n\n"]],
      [.fixed "      protected abstract void doDefault(", .given d.name, .given tp,
        .fixed " x);\n", .fixed "   \x7d\n\n"]]

/-- The class of a variant type in parts. -/
def variantParts (d : DataType) : List Part :=
  let tp := typeParams d.params
  List.flatten
    [[.fixed "public abstract class ", .given d.name, .given tp, .fixed " \x7b\n\n",
        .fixed "   private ", .given d.name, .fixed "() \x7b\n   \x7d\n\n"],
      each d.constructors fun c =>
        List.flatten [factoryParts d.name c.name d.params c, [.fixed "\n"]],
      [.fixed "\n"], visitorParts d,
      each d.constructors fun c =>
        List.flatten [declarationParts d.name d.params c, [.fixed "\n\n"]],
      [.fixed "   public abstract <", .given (resultParam d.params), .fixed "> ",
        .given (resultParam d.params), .fixed " accept(Visitor",
        .given (typeParams (withResult d.params)), .fixed " visitor);\n\n",
        .fixed "   public abstract void accept(VoidVisitor", .given tp, .fixed " visitor);\n\n",
        .fixed "\x7d\n"]]

/-- The class of a data type in parts. -/
def classParts (d : DataType) : List Part :=
  match d.constructors with
  | [c] => recordParts d c
  | _ => variantParts d

section Texts

open Text (ofString_append ofString_append_append)

theorem joined_declarationParts (dataType : Text) (params : List Text) (c : Constructor) :
    joined (declarationParts dataType params c) = declaration dataType params c := by
  delta declarationParts declaration
  simp only [overrides, List.flatten_cons, List.flatten_nil, joined_append, joined_cons, joined_nil,
    joined_constructorParts, joined_hashCodeParts, joined_equalsParts, joined_toStringParts,
    Part.text_fixed, Part.text_given, Part.text_core, List.append_assoc, List.append_nil,
    ofString_append, ofString_append_append, String.reduceAppend]

theorem joined_recordParts (d : DataType) (c : Constructor) :
    joined (recordParts d c) = recordClass d c := by
  delta recordParts recordClass recordFactory
  simp only [List.flatten_cons, List.flatten_nil, joined_append, joined_cons, joined_nil,
    joined_factoryParts, joined_constructorParts, joined_hashCodeParts, joined_equalsParts,
    joined_toStringParts, Part.text_fixed, Part.text_given, List.append_assoc, List.append_nil]

theorem joined_variantParts (d : DataType) : joined (variantParts d) = variantClass d := by
  delta variantParts visitorParts variantClass factory
  simp only [overrides, List.flatten_cons, List.flatten_nil, joined_append, joined_cons, joined_nil,
    joined_each, joined_factoryParts, joined_declarationParts, Part.text_fixed, Part.text_given,
    Part.text_core, List.append_assoc, List.append_nil, ofString_append, ofString_append_append,
    String.reduceAppend]

/-- The parts of a class make up its text. -/
theorem joined_classParts (d : DataType) : joined (classParts d) = classText d := by
  delta classParts classText
  rcases d.constructors with _ | ⟨c, _ | ⟨_, _⟩⟩
  · exact joined_variantParts d
  · exact joined_recordParts d c
  · exact joined_variantParts d

end Texts

/-! ## Types that a class names -/

section Boxes

variable {p : Primitive} {name : Text}

/-- A primitive is a type argument somewhere in a type. -/
def Boxes (t : Ty) (p : Primitive) : Prop :=
  ∃ name args, (Ty.cls name args).Within t ∧ .prim p ∈ args

@[simp] theorem boxes_prim {q : Primitive} : ¬Boxes (.prim q) p := by
  rintro ⟨name, args, hin, -⟩
  cases hin

@[simp] theorem boxes_absent : ¬Boxes .absent p := by
  rintro ⟨name, args, hin, -⟩
  cases hin

@[simp] theorem boxes_array {elem : Ty} : Boxes (.array elem) p ↔ Boxes elem p := by
  constructor
  · rintro ⟨name, args, hin, hp⟩
    cases hin with
    | elem hin => exact ⟨name, args, hin, hp⟩
  · rintro ⟨name, args, hin, hp⟩
    exact ⟨name, args, .elem hin, hp⟩

theorem boxes_cls {args : List Ty} :
    Boxes (.cls name args) p ↔ ∃ t ∈ args, t = .prim p ∨ Boxes t p := by
  constructor
  · rintro ⟨inner, innerArgs, hin, hp⟩
    cases hin with
    | here => exact ⟨_, hp, .inl rfl⟩
    | arg harg hin => exact ⟨_, harg, .inr ⟨inner, innerArgs, hin, hp⟩⟩
  · rintro ⟨t, ht, rfl | ⟨inner, innerArgs, hin, hp⟩⟩
    · exact ⟨name, args, .here, ht⟩
    · exact ⟨inner, innerArgs, .arg ht hin, hp⟩

end Boxes

mutual

theorem core_mem_typeParts {name : Text} : ∀ t : Ty,
    .core name ∈ typeParts t ↔ ∃ p, Boxes t p ∧ name = p.javaBox
  | .prim p => by simp [typeParts]
  | .cls _ [] => by simp [typeParts, boxes_cls]
  | .cls _ (arg :: rest) => by
    simp [typeParts, boxes_cls, core_mem_argumentParts arg, core_mem_furtherParts rest,
      or_and_right, exists_or]
  | .array elem => by simp [typeParts, core_mem_typeParts elem]
  | .absent => by simp [typeParts]

theorem core_mem_argumentParts {name : Text} : ∀ t : Ty,
    .core name ∈ argumentParts t ↔ ∃ p, (t = .prim p ∨ Boxes t p) ∧ name = p.javaBox
  | .prim p => by simp [argumentParts]
  | .cls _ [] => by simp [argumentParts, boxes_cls]
  | .cls _ (arg :: rest) => by
    simp [argumentParts, boxes_cls, core_mem_argumentParts arg, core_mem_furtherParts rest,
      or_and_right, exists_or]
  | .array elem => by simp [argumentParts, core_mem_typeParts elem]
  | .absent => by simp [argumentParts]

theorem core_mem_furtherParts {name : Text} : ∀ ts : List Ty,
    .core name ∈ furtherParts ts ↔ ∃ p, (∃ t ∈ ts, t = .prim p ∨ Boxes t p) ∧ name = p.javaBox
  | [] => by simp [furtherParts]
  | arg :: rest => by
    simp [furtherParts, core_mem_argumentParts arg, core_mem_furtherParts rest, or_and_right,
      exists_or]

end

/-- The class that gives the bits of fields of a type. -/
def GivesBits (t : Ty) (name : Text) : Prop :=
  t = .prim .double ∧ name = "Double" ∨ t = .prim .float ∧ name = "Float"

/-- The class that boxes a type argument in a type. -/
def IsBox (t : Ty) (name : Text) : Prop := ∃ p, Boxes t p ∧ name = p.javaBox

/-- The types of the language that the members for a constructor name. -/
def NamedFor (params : List Text) (c : Constructor) (name : Text) : Prop :=
  name ∈ (["Object", "String", "Override"] : List Text) ∨
    params ≠ [] ∧ name = "SuppressWarnings" ∨
    ∃ a ∈ c.args, GivesBits a.type name ∨ IsBox a.type name

/-- The types of the language that the class of a data type names. -/
def CoreNamed (d : DataType) (name : Text) : Prop :=
  name ∈ (["Object", "String", "Override"] : List Text) ∨
    d.params ≠ [] ∧ name = "SuppressWarnings" ∨
    ∃ c ∈ d.constructors, ∃ a ∈ c.args, GivesBits a.type name ∨ IsBox a.type name

section Members

variable {name : Text} {c : Constructor} {indent : Text} {params : List Text}

@[simp] theorem core_mem_overrides : .core name ∈ overrides indent ↔ name = "Override" := by
  simp [overrides]

@[simp] theorem core_mem_suppresses {warning : Text} :
    .core name ∈ suppresses indent warning ↔ name = "SuppressWarnings" := by
  simp [suppresses]

@[simp] theorem core_mem_argListParts {args : List Arg} :
    .core name ∈ argListParts args ↔ ∃ a ∈ args, IsBox a.type name := by
  induction args with
  | nil => simp [argListParts]
  | cons a rest ih =>
    cases rest with
    | nil => simp [argListParts, core_mem_typeParts, IsBox]
    | cons b rest =>
      rw [argListParts, List.mem_append, ih]
      · simp [core_mem_typeParts, IsBox]
      · simp

@[simp] theorem core_mem_hashParts {t : Ty} {read : Text} :
    .core name ∈ hashParts read (hashForm t) ↔ GivesBits t name := by
  fun_cases hashForm t <;> simp_all [hashParts, GivesBits]

@[simp] theorem core_mem_equalParts {t : Ty} {own other : Text} :
    .core name ∈ equalParts indent own other (equalForm t) ↔ GivesBits t name := by
  fun_cases equalForm t <;> simp_all [equalParts, GivesBits]

@[simp] theorem core_mem_constructorParts {modifiers : Text} :
    .core name ∈ constructorParts indent modifiers c ↔ ∃ a ∈ c.args, IsBox a.type name := by
  simp [constructorParts, core_mem_typeParts, IsBox]

@[simp] theorem core_mem_hashCodeParts :
    .core name ∈ hashCodeParts indent c ↔
      name = "Override" ∨ ∃ a ∈ c.args, GivesBits a.type name := by
  cases hargs : c.args <;> simp [hashCodeParts, hashSteps, hargs]

@[simp] theorem core_mem_equalsParts :
    .core name ∈ equalsParts indent c params ↔
      name = "Override" ∨ name = "Object" ∨
        c.args ≠ [] ∧ params ≠ [] ∧ name = "SuppressWarnings" ∨
        ∃ a ∈ c.args, GivesBits a.type name := by
  cases hargs : c.args <;> simp [equalsParts, equalSteps, hargs]

@[simp] theorem core_not_mem_fieldStringsParts {separator : Text} {args : List Arg} :
    .core name ∉ fieldStringsParts separator args := by
  induction args generalizing separator with
  | nil => simp [fieldStringsParts]
  | cons a rest ih => cases htype : a.type <;> simp [fieldStringsParts, fieldStringParts, htype, ih]

@[simp] theorem core_mem_toStringParts :
    .core name ∈ toStringParts indent c ↔ name = "Override" ∨ name = "String" := by
  simp [toStringParts]

@[simp] theorem core_mem_factoryParts {result impl : Text} :
    .core name ∈ factoryParts result impl params c ↔
      c.args = [] ∧ params ≠ [] ∧ name = "SuppressWarnings" ∨
        ∃ a ∈ c.args, IsBox a.type name := by
  simp [factoryParts]

end Members

section Classes

variable {name : Text} {d : DataType}

theorem core_mem_recordParts {c : Constructor} :
    .core name ∈ recordParts d c ↔ NamedFor d.params c name := by
  simp only [recordParts, List.flatten_cons, List.flatten_nil, List.mem_append, List.mem_cons,
    reduceCtorEq, List.not_mem_nil, or_false, false_or, core_mem_factoryParts,
    core_mem_constructorParts, core_mem_hashCodeParts, core_mem_equalsParts,
    core_mem_toStringParts, NamedFor]
  grind

theorem core_mem_visitorParts :
    .core name ∈ visitorParts d ↔ (∃ c, c ∈ d.constructors) ∧ name = "Override" := by
  simp [visitorParts]

theorem core_mem_declarationParts {dataType : Text} {params : List Text} {c : Constructor} :
    .core name ∈ declarationParts dataType params c ↔
      name ∈ (["Object", "String", "Override"] : List Text) ∨
        c.args ≠ [] ∧ params ≠ [] ∧ name = "SuppressWarnings" ∨
        ∃ a ∈ c.args, GivesBits a.type name ∨ IsBox a.type name := by
  simp only [declarationParts, List.flatten_cons, List.flatten_nil, List.mem_append, List.mem_cons,
    reduceCtorEq, List.not_mem_nil, or_false, false_or, core_mem_overrides,
    core_mem_constructorParts, core_mem_hashCodeParts, core_mem_equalsParts,
    core_mem_toStringParts]
  grind

theorem core_mem_variantParts :
    .core name ∈ variantParts d ↔ ∃ c ∈ d.constructors, NamedFor d.params c name := by
  simp only [variantParts, List.flatten_cons, List.flatten_nil, List.mem_append, List.mem_cons,
    reduceCtorEq, List.not_mem_nil, or_false, false_or, mem_each, core_mem_visitorParts,
    core_mem_factoryParts, core_mem_declarationParts, NamedFor]
  grind

/-- Which types of the language a class names. -/
theorem core_mem_classParts (hsome : d.constructors ≠ []) :
    .core name ∈ classParts d ↔ CoreNamed d name := by
  obtain ⟨c, hc⟩ := List.exists_mem_of_ne_nil _ hsome
  have hall : CoreNamed d name ↔ ∃ c ∈ d.constructors, NamedFor d.params c name := by
    simp only [CoreNamed, NamedFor]
    grind
  rw [hall, classParts]
  split
  · next record hrecord => rw [core_mem_recordParts, hrecord]; simp
  · exact core_mem_variantParts

end Classes

/-! ## The other words -/

/-- The types of the language that generated classes may name. -/
def coreNames : List Text :=
  ["Object", "String", "Override", "SuppressWarnings", "Boolean", "Byte", "Character", "Double",
    "Float", "Integer", "Long", "Short"]

/-- The bytes of words in fixed texts. -/
def isWordByte (b : UInt8) : Bool :=
  (65 ≤ b && b ≤ 90) || (97 ≤ b && b ≤ 122) || Text.isDigit b || b == 95

/-- The words of a text. -/
def words (t : Text) : List Text := t.splitOnP (!isWordByte ·)

/-- No word of a fixed text is the name of a type of the language. -/
def Part.CoreFree : Part → Prop
  | .fixed text => ∀ word ∈ words text, word ∉ coreNames
  | .given _ => True
  | .core _ => True

instance : DecidablePred Part.CoreFree
  | .fixed text => inferInstanceAs (Decidable (∀ word ∈ words text, word ∉ coreNames))
  | .given _ => .isTrue trivial
  | .core _ => .isTrue trivial

@[simp] theorem coreFree_given (t : Text) : (Part.given t).CoreFree := trivial

@[simp] theorem coreFree_core (t : Text) : (Part.core t).CoreFree := trivial

/-- No fixed text among parts has a word that is the name of a type of the language. -/
def AllFree (parts : List Part) : Prop := ∀ p ∈ parts, p.CoreFree

@[simp] theorem allFree_nil : AllFree [] := by simp [AllFree]

@[simp] theorem allFree_cons {p : Part} {ps : List Part} :
    AllFree (p :: ps) ↔ p.CoreFree ∧ AllFree ps := List.forall_mem_cons

@[simp] theorem allFree_append {ps qs : List Part} :
    AllFree (ps ++ qs) ↔ AllFree ps ∧ AllFree qs := List.forall_mem_append

@[simp] theorem allFree_optional {condition : Bool} {ps : List Part} :
    AllFree (optional condition ps) ↔ (condition = true → AllFree ps) := by
  cases condition <;> simp [optional]

@[simp] theorem allFree_each {α : Type} {xs : List α} {f : α → List Part} :
    AllFree (each xs f) ↔ ∀ x ∈ xs, AllFree (f x) := List.forall_mem_flatMap

mutual

@[simp] theorem allFree_typeParts : ∀ t : Ty, AllFree (typeParts t)
  | .prim p => by cases p <;> simp +decide [typeParts, Primitive.name]
  | .cls _ [] => by simp [typeParts]
  | .cls _ (arg :: rest) => by
    simp +decide [typeParts, allFree_argumentParts arg, allFree_furtherParts rest]
  | .array elem => by simp +decide [typeParts, allFree_typeParts elem]
  | .absent => by simp [typeParts]

theorem allFree_argumentParts : ∀ t : Ty, AllFree (argumentParts t)
  | .prim p => by simp [argumentParts]
  | .cls _ [] => by simp [argumentParts]
  | .cls _ (arg :: rest) => by
    simp +decide [argumentParts, allFree_argumentParts arg, allFree_furtherParts rest]
  | .array elem => by simp +decide [argumentParts, allFree_typeParts elem]
  | .absent => by simp [argumentParts]

theorem allFree_furtherParts : ∀ ts : List Ty, AllFree (furtherParts ts)
  | [] => by simp [furtherParts]
  | arg :: rest => by
    simp +decide [furtherParts, allFree_argumentParts arg, allFree_furtherParts rest]

end

@[simp] theorem allFree_argListParts (args : List Arg) : AllFree (argListParts args) := by
  fun_induction argListParts args <;> simp +decide [*]

@[simp] theorem allFree_fieldStringParts (a : Arg) : AllFree (fieldStringParts a) := by
  cases htype : a.type with
  | array elem => cases hdeep : isDeep elem <;> simp +decide [fieldStringParts, htype, hdeep]
  | _ => simp [fieldStringParts, htype]

theorem allFree_fieldStringsParts {separator : Text} (hseparator : (Part.fixed separator).CoreFree)
    (args : List Arg) : AllFree (fieldStringsParts separator args) := by
  induction args generalizing separator with
  | nil => simp [fieldStringsParts]
  | cons a rest ih => simp +decide [fieldStringsParts, hseparator, ih]

@[simp] theorem allFree_hashParts (read : Text) (form : HashForm) :
    AllFree (hashParts read form) := by
  cases form with
  | array deep => cases deep <;> simp +decide [hashParts]
  | _ => simp +decide [hashParts]

section Indented

variable {indent : Text} (hindent : (Part.fixed indent).CoreFree)
include hindent

theorem allFree_equalParts (own other : Text) (form : EqualForm) :
    AllFree (equalParts indent own other form) := by
  cases form with
  | array deep => cases deep <;> simp +decide [equalParts, hindent]
  | _ => simp +decide [equalParts, hindent]

theorem allFree_constructorParts {modifiers : Text} (hmodifiers : (Part.fixed modifiers).CoreFree)
    (c : Constructor) : AllFree (constructorParts indent modifiers c) := by
  simp +decide [constructorParts, hindent, hmodifiers]

theorem allFree_hashCodeParts (c : Constructor) : AllFree (hashCodeParts indent c) := by
  simp +decide [hashCodeParts, overrides, hindent]

theorem allFree_equalsParts (hbody : (Part.fixed (indent ++ "   ")).CoreFree) (c : Constructor)
    (params : List Text) : AllFree (equalsParts indent c params) := by
  simp +decide [equalsParts, overrides, suppresses, hindent, hbody, allFree_equalParts]

theorem allFree_toStringParts (c : Constructor) : AllFree (toStringParts indent c) := by
  simp +decide [toStringParts, overrides, hindent, allFree_fieldStringsParts]

end Indented

theorem allFree_factoryParts (result impl : Text) (params : List Text) (c : Constructor) :
    AllFree (factoryParts result impl params c) := by
  simp +decide [factoryParts, suppresses]

theorem allFree_classParts (d : DataType) : AllFree (classParts d) := by
  rw [classParts]
  split
  · simp +decide [recordParts, allFree_factoryParts, allFree_constructorParts,
      allFree_hashCodeParts, allFree_equalsParts, allFree_toStringParts]
  · simp +decide [variantParts, visitorParts, declarationParts, overrides, allFree_factoryParts,
      allFree_constructorParts, allFree_hashCodeParts, allFree_equalsParts, allFree_toStringParts]

/-! ## Bound names -/

/-- The declared names that the class of a data type binds to types. The constructor of a record has
no class of its own. -/
def declaredTypeNames (d : DataType) : List Text :=
  d.name :: d.params ++ if d.isRecord then [] else d.constructors.map (·.name)

/-- The names that the class of a data type binds to types. -/
def boundTypeNames (d : DataType) : List Text :=
  declaredTypeNames d ++ if d.isRecord then [] else visitorNames ++ [resultParam d.params]

/-- The class of a data type that can be read names no other types of the language. -/
theorem mem_coreNames_of_coreNamed {table : WordTable} {d : DataType} (hreadable : d.Readable table)
    {name : Text} (h : CoreNamed d name) : name ∈ coreNames := by
  rcases h with halways | ⟨-, rfl⟩ | ⟨c, hc, a, ha, hbits | hbox⟩
  · have hsub : (["Object", "String", "Override"] : List Text) ⊆ coreNames := by decide
    exact hsub halways
  · decide
  · rcases hbits with ⟨-, rfl⟩ | ⟨-, rfl⟩ <;> decide
  · obtain ⟨p, ⟨outer, args, hin, hp⟩, rfl⟩ := hbox
    have hargs := hin.readable ((hreadable.constructors c hc).args a ha).type
    simp only [Ty.Readable, Ty.allReadable_iff] at hargs
    have hlisted : ∀ p ∈ Primitive.listed, p.javaBox ∈ coreNames := by decide
    exact hlisted p (hargs.2 _ hp)

/-- No name that is made up in a class is that of a type of the language. -/
theorem madeUp_not_mem_coreNames (params : List Text) :
    ∀ name ∈ visitorNames ++ [resultParam params], name ∉ coreNames := by
  intro name hname hcore
  rcases List.mem_append.mp hname with hvisitor | hresult
  · have hnone : ∀ name ∈ visitorNames, name ∉ coreNames := by decide
    exact hnone name hvisitor hcore
  · obtain rfl := List.mem_singleton.mp hresult
    have hstart : ("ResultType" : Text) <+: resultParam params := FreshName.extends_choose _ params
    have hnone : ∀ name ∈ coreNames, ¬("ResultType" : Text) <+: name := by decide
    exact hnone _ hcore hstart

/-- **Which names capture types of the language.** The class of a data type that was read names
`Object`, `String` and `Override`, also `SuppressWarnings` if it has type parameters, and `Double`,
`Float` and the boxes of primitives where its fields need them. Its fixed texts name nothing else of
the language. These names keep their meaning iff the data type, its type parameters and the classes
of its constructors are named otherwise. -/
theorem core_types_captured {file : SourceFile} {doc : Doc}
    (read : file.parse Backend.java.wordTable = .ok doc) {d : DataType} (hd : d ∈ doc.types) :
    joined (classParts d) = classText d ∧
      (∀ text, .fixed text ∈ classParts d → ∀ word ∈ words text, word ∉ coreNames) ∧
      (∀ name, .core name ∈ classParts d ↔ CoreNamed d name) ∧
      ((∀ name, .core name ∈ classParts d → name ∉ boundTypeNames d) ↔
        ∀ name ∈ declaredTypeNames d, ¬CoreNamed d name) := by
  have hreadable := (SourceFile.readable_of_parse read).types d hd
  have hnamed (name : Text) : .core name ∈ classParts d ↔ CoreNamed d name :=
    core_mem_classParts hreadable.nonempty
  refine ⟨joined_classParts d, fun text htext => allFree_classParts d _ htext, hnamed, ?_⟩
  constructor
  · intro hkept name hdeclared hcore
    exact hkept name ((hnamed name).mpr hcore) (List.mem_append_left _ hdeclared)
  · intro hapart name hcore hbound
    have hcore := (hnamed name).mp hcore
    rcases List.mem_append.mp hbound with hdeclared | hmadeUp
    · exact hapart name hdeclared hcore
    · split at hmadeUp
      · cases hmadeUp
      · exact madeUp_not_mem_coreNames _ name hmadeUp (mem_coreNames_of_coreNamed hreadable hcore)

namespace Sensor

/-- A document whose class names types of all kinds: bits of a double, a box and warnings. -/
def file : SourceFile :=
  { id := 0, path := "sensor.adt"
    content := "Sensor<A> = Off | On(double level, List<int> marks, A kind)\n", flags := 0 }

def type : DataType :=
  ⟨"Sensor", ["A"], [⟨"Off", []⟩, ⟨"On", [⟨.prim .double, "level"⟩,
    ⟨.cls "List" [.prim .int], "marks"⟩, ⟨.cls "A" [], "kind"⟩]⟩]⟩

theorem parse_file :
    file.parse Backend.java.wordTable = .ok ⟨"sensor.adt", [], [], [type]⟩ := by rfl

end Sensor

/-- The class of a variant type with type parameters keeps the meaning of all types of the language
that it names. -/
theorem core_types_captured_sensor :
    (∀ name ∈ (["Override", "SuppressWarnings", "Double", "Integer"] : List Text),
      .core name ∈ classParts Sensor.type) ∧
    ∀ name, .core name ∈ classParts Sensor.type → name ∉ boundTypeNames Sensor.type := by
  have hcaptured := core_types_captured Sensor.parse_file List.mem_cons_self
  refine ⟨by decide, hcaptured.2.2.2.mpr ?_⟩
  intro name hname hcore
  have hreadable :=
    (SourceFile.readable_of_parse Sensor.parse_file).types Sensor.type List.mem_cons_self
  have hmem : name ∈ coreNames := mem_coreNames_of_coreNamed hreadable hcore
  have hnone : ∀ name ∈ declaredTypeNames Sensor.type, name ∉ coreNames := by decide
  exact hnone name hname hmem

namespace Namesakes

/-- A record, a variant type and a type parameter that are named like types of the language. -/
def file : SourceFile :=
  { id := 0, path := "namesakes.adt"
    content := "String = String(int x)\nObject = A | Override\nBox<Double> = Box(double x)\n"
    flags := 0 }

def string : DataType := ⟨"String", [], [⟨"String", [⟨.prim .int, "x"⟩]⟩]⟩

def object : DataType := ⟨"Object", [], [⟨"A", []⟩, ⟨"Override", []⟩]⟩

def box : DataType := ⟨"Box", ["Double"], [⟨"Box", [⟨.prim .double, "x"⟩]⟩]⟩

def doc : Doc := ⟨"namesakes.adt", [], [], [string, object, box]⟩

end Namesakes

/-- Names of types of the language are accepted as names of data types, constructors and type
parameters, and the classes then mean these by them. -/
theorem core_types_hidden :
    Namesakes.file.parse Backend.java.wordTable = .ok Namesakes.doc ∧
      (Namesakes.doc.check Backend.java.rules).isEmpty = true ∧
      ∀ named ∈ [(Namesakes.string, ("String" : Text)), (Namesakes.object, "Object"),
          (Namesakes.object, "Override"), (Namesakes.box, "Double")],
        named.2 ∈ declaredTypeNames named.1 ∧ .core named.2 ∈ classParts named.1 :=
  ⟨by rfl, by decide, by decide⟩

end AdtCompiler.Java
