import AdtCompiler.Backend.JavaBody

/-!
# Java units

A record becomes a final class. A data type with several constructors becomes an abstract class
with a nested class for each constructor, and with visitors for double dispatch: with a result
and without, and each with a default.
-/

namespace AdtCompiler.Java

/-! ## Parts of a constructor -/

/-- The static method that builds a constructor: it returns `result` and makes an `impl`. A
constructor without arguments shares one instance. -/
def factoryOf (result impl : Text) (params : List Text) (c : Constructor) : Text :=
  let tp := typeParams params
  let generic := Text.when (!params.isEmpty) (tp ++ " ")
  if c.args.isEmpty then
    Text.when (!params.isEmpty) "   @SuppressWarnings(\"rawtypes\")\n" ++
      "   private static final " ++ result ++ " _" ++ c.name ++ " = new " ++ impl ++ "();\n" ++
      Text.when (!params.isEmpty) "   @SuppressWarnings(\"unchecked\")\n" ++
      "   public static final " ++ generic ++ result ++ tp ++ " _" ++ c.name ++
      "() \x7b return _" ++ c.name ++ "; \x7d"
  else
    "   public static final " ++ generic ++ result ++ tp ++ " _" ++ c.name ++ "(" ++
      argList c.args ++ ") \x7b return new " ++ impl ++ tp ++ "(" ++ argNames c.args ++ "); \x7d"

/-- The factory on the base class of a variant type. -/
def factory (dataType : Text) (params : List Text) (c : Constructor) : Text :=
  factoryOf dataType c.name params c

/-- The factory of a record class: it is named for the constructor and builds the class. -/
def recordFactory (className : Text) (params : List Text) (c : Constructor) : Text :=
  factoryOf className className params c

/-- The nested class of a constructor. -/
def declaration (dataType : Text) (params : List Text) (c : Constructor) : Text :=
  let tp := typeParams params
  let indent : Text := "      "
  let result := resultParam params
  "   public static final class " ++ c.name ++ tp ++ " extends " ++ dataType ++ tp ++ " \x7b\n" ++
    constructorMethod indent "" c ++ "\n\n" ++
    indent ++ "@Override\n" ++
    indent ++ "public <" ++ result ++ "> " ++ result ++ " accept(Visitor" ++
    typeParams (withResult params) ++ " visitor) \x7b return visitor.visit(this); \x7d\n" ++
    "\n" ++
    indent ++ "@Override\n" ++
    indent ++ "public void accept(VoidVisitor" ++ tp ++
    " visitor) \x7b visitor.visit(this); \x7d\n" ++
    "\n" ++
    hashCodeMethod indent c ++ "\n\n" ++
    equalsMethod indent c params ++ "\n\n" ++
    toStringMethod indent c ++ "\n\n" ++
    "   \x7d"

/-! ## Classes -/

/-- The class of a record: the class itself plays the part of the constructor. -/
def recordClass (d : DataType) (c : Constructor) : Text :=
  let own : Constructor := { c with name := d.name }
  let indent : Text := "   "
  "public final class " ++ d.name ++ typeParams d.params ++ " \x7b\n\n" ++
    recordFactory d.name d.params c ++ "\n\n" ++
    constructorMethod indent "public " own ++ "\n\n" ++
    hashCodeMethod indent own ++ "\n\n" ++
    equalsMethod indent own d.params ++ "\n\n" ++
    toStringMethod indent own ++ "\n\n\x7d\n"

/-- The names of the visitors nested in the class of a variant type. -/
def visitorNames : List Text :=
  ["Visitor", "VisitorWithDefault", "VoidVisitor", "VoidVisitorWithDefault"]

/-- The class of a variant type. -/
def variantClass (d : DataType) : Text :=
  let tp := typeParams d.params
  let vtp := typeParams (withResult d.params)
  let result := resultParam d.params
  "public abstract class " ++ d.name ++ tp ++ " \x7b\n\n" ++
    "   private " ++ d.name ++ "() \x7b\n   \x7d\n\n" ++
    (d.constructors.flatMap fun c => (factory d.name d.params c ++ "\n" : Text)) ++
    "\n" ++
    "   public static interface Visitor" ++ vtp ++ " \x7b\n" ++
    (d.constructors.flatMap fun c =>
      ("      " ++ result ++ " visit(" ++ c.name ++ tp ++ " x);\n" : Text)) ++
    "   \x7d\n\n" ++
    "   public static abstract class VisitorWithDefault" ++ vtp ++ " implements Visitor" ++ vtp ++
    " \x7b\n" ++
    (d.constructors.flatMap fun c =>
      ("      @Override\n" ++
        "      public " ++ result ++ " visit(" ++ c.name ++ tp ++
        " x) \x7b return getDefault(x); \x7d\n\n" : Text)) ++
    "      protected abstract " ++ result ++ " getDefault(" ++ d.name ++ tp ++ " x);\n" ++
    "   \x7d\n\n" ++
    "   public static interface VoidVisitor" ++ tp ++ " \x7b\n" ++
    (d.constructors.flatMap fun c => ("      void visit(" ++ c.name ++ tp ++ " x);\n" : Text)) ++
    "   \x7d\n\n" ++
    "   public static abstract class VoidVisitorWithDefault" ++ tp ++ " implements VoidVisitor" ++
    tp ++ " \x7b\n" ++
    (d.constructors.flatMap fun c =>
      ("      @Override\n" ++
        "      public void visit(" ++ c.name ++ tp ++ " x) \x7b doDefault(x); \x7d\n\n" : Text)) ++
    "      protected abstract void doDefault(" ++ d.name ++ tp ++ " x);\n" ++
    "   \x7d\n\n" ++
    (d.constructors.flatMap fun c => (declaration d.name d.params c ++ "\n\n" : Text)) ++
    "   public abstract <" ++ result ++ "> " ++ result ++ " accept(Visitor" ++ vtp ++
    " visitor);\n\n" ++
    "   public abstract void accept(VoidVisitor" ++ tp ++ " visitor);\n\n" ++
    "\x7d\n"

/-- The class of a data type. -/
def classText (d : DataType) : Text :=
  match d.constructors with
  | [c] => recordClass d c
  | _ => variantClass d

/-! ## Headers and reserved words -/

/-- The text in front of every unit of a document: package, imports and a comment that holds
the provenance. -/
def header (doc : Doc) (provenance : Text) : Text :=
  Text.when (!doc.package.isEmpty) ("package " ++ doc.package ++ ";\n\n") ++
    Text.when (!doc.imports.isEmpty)
      ((doc.imports.flatMap fun i => ("import " ++ i ++ ";\n" : Text)) ++ "\n") ++
    "/*\n" ++ provenance ++ "\n*/\n"

/-- The words of Java that no declared name may use. -/
def reservedWords : List Text :=
  ["abstract", "assert", "boolean", "break", "byte", "case", "catch", "char",
    "class", "const", "continue", "default", "do", "double", "else", "enum",
    "extends", "final", "finally", "float", "for", "goto", "if", "implements",
    "import", "instanceof", "int", "interface", "long", "native", "new",
    "package", "private", "protected", "public", "return", "short", "static",
    "strictfp", "super", "switch", "synchronized", "this", "throw", "throws",
    "transient", "try", "void", "volatile", "while",
    "true", "false", "null",
    "_"].map Text.ofString

end AdtCompiler.Java
