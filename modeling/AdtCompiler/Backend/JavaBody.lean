import AdtCompiler.Backend.JavaType

/-!
# Bodies of Java classes

The members that record classes and the classes of variants share: fields with the method that
sets them, the hash code, equality and the printed form. None of the texts ends its last line.

Equality and hash code are chosen per field by its type, and printed in two steps: first the
form of the comparison or of the hash, then its text.
-/

namespace AdtCompiler.Java

/-- How the hash of a field is computed. -/
inductive HashForm where
  /-- The value itself. -/
  | value
  /-- One of two numbers for a truth value. -/
  | truth
  /-- Both halves of a long. -/
  | long
  /-- Both halves of the bits of a double. -/
  | doubleBits
  /-- The bits of a float. -/
  | floatBits
  /-- The hash of an array, of its elements or in depth. -/
  | array (deep : Bool)
  /-- The hash of an object, zero for none. -/
  | object
deriving Repr, DecidableEq

/-- How a field is compared. -/
inductive EqualForm where
  /-- The values themselves. -/
  | value
  /-- The bits of doubles. -/
  | doubleBits
  /-- The bits of floats. -/
  | floatBits
  /-- The elements of arrays, or arrays in depth. -/
  | array (deep : Bool)
  /-- Objects, either of which may be missing. -/
  | object
deriving Repr, DecidableEq

/-- Whether the elements of an array need a method that looks into them. -/
def isDeep : Ty → Bool
  | .prim _ => false
  | _ => true

/-- The hash of a field of a type. -/
def hashForm : Ty → HashForm
  | .prim .boolean => .truth
  | .prim .long => .long
  | .prim .double => .doubleBits
  | .prim .float => .floatBits
  | .prim _ => .value
  | .array elem => .array (isDeep elem)
  | .cls _ _ | .absent => .object

/-- The comparison of fields of a type. -/
def equalForm : Ty → EqualForm
  | .prim .double => .doubleBits
  | .prim .float => .floatBits
  | .prim _ => .value
  | .array elem => .array (isDeep elem)
  | .cls _ _ | .absent => .object

/-- The read of a field of this object. It is qualified, so that no local of the generated
methods hides it. -/
def ownField (name : Text) : Text := "this." ++ name

/-- The read of a field of the other object. -/
def otherField (name : Text) : Text := "other." ++ name

/-- The method of the array library. -/
def arraysMethod (deep : Bool) (plainName deepName : Text) : Text :=
  "java.util.Arrays." ++ if deep then deepName else plainName

/-- The hash of a field that is read by `read`. -/
def HashForm.text (read : Text) : HashForm → Text
  | .value => read
  | .truth => "(" ++ read ++ " ? 1231 : 1237)"
  | .long => "(int)(" ++ read ++ " ^ (" ++ read ++ " >>> 32))"
  | .doubleBits =>
    let bits : Text := "Double.doubleToLongBits(" ++ read ++ ")"
    "(int)(" ++ bits ++ " ^ (" ++ bits ++ " >>> 32))"
  | .floatBits => "Float.floatToIntBits(" ++ read ++ ")"
  | .array deep => arraysMethod deep "hashCode" "deepHashCode" ++ "(" ++ read ++ ")"
  | .object => "((" ++ read ++ " == null) ? 0 : " ++ read ++ ".hashCode())"

/-- The statement that leaves the comparison when the fields read by `own` and `other` differ. -/
def EqualForm.text (indent own other : Text) : EqualForm → Text
  | .value => indent ++ "if (" ++ own ++ " != " ++ other ++ ") return false;\n"
  | .doubleBits =>
    indent ++ "if (Double.doubleToLongBits(" ++ own ++ ") != Double.doubleToLongBits(" ++ other ++
      ")) return false;\n"
  | .floatBits =>
    indent ++ "if (Float.floatToIntBits(" ++ own ++ ") != Float.floatToIntBits(" ++ other ++
      ")) return false;\n"
  | .array deep =>
    indent ++ "if (!" ++ arraysMethod deep "equals" "deepEquals" ++ "(" ++ own ++ ", " ++ other ++
      ")) return false;\n"
  | .object =>
    indent ++ "if (" ++ own ++ " == null) \x7b\n" ++
      indent ++ "   if (" ++ other ++ " != null) return false;\n" ++
      indent ++ "\x7d else if (!" ++ own ++ ".equals(" ++ other ++ ")) return false;\n"

/-- The mixing steps of a hash code: each field with the form of its hash, in order. -/
def hashSteps (c : Constructor) : List (Text × HashForm) :=
  c.args.map fun a => (a.name, hashForm a.type)

/-- The comparisons of an equality: each field with its form, in order. -/
def equalSteps (c : Constructor) : List (Text × EqualForm) :=
  c.args.map fun a => (a.name, equalForm a.type)

/-- The fields of a class, and the method that sets them. -/
def constructorMethod (indent modifiers : Text) (c : Constructor) : Text :=
  (c.args.flatMap fun a =>
      (indent ++ "public final " ++ a.type.javaText ++ " " ++ a.name ++ ";\n" : Text)) ++
    Text.when (!c.args.isEmpty) "\n" ++
    indent ++ modifiers ++ c.name ++ "(" ++ argList c.args ++ ") \x7b\n" ++
    (c.args.flatMap fun a => (indent ++ "   this." ++ a.name ++ " = " ++ a.name ++ ";\n" : Text)) ++
    indent ++ "\x7d"

/-- The method for hash codes. -/
def hashCodeMethod (indent : Text) (c : Constructor) : Text :=
  let body := indent ++ "   "
  indent ++ "@Override\n" ++
    indent ++ "public int hashCode() \x7b\n" ++
    (if c.args.isEmpty then body ++ "return 0;\n"
      else
        body ++ "final int prime = 31;\n" ++
          body ++ "int result = 1;\n" ++
          ((hashSteps c).flatMap fun (name, form) =>
            (body ++ "result = prime * result + " ++ form.text (ownField name) ++ ";\n" : Text)) ++
          body ++ "return result;\n") ++
    indent ++ "\x7d"

/-- The method for equality. -/
def equalsMethod (indent : Text) (c : Constructor) (params : List Text) : Text :=
  let body := indent ++ "   "
  indent ++ "@Override\n" ++
    indent ++ "public boolean equals(Object obj) \x7b\n" ++
    body ++ "if (this == obj) return true;\n" ++
    body ++ "if (obj == null) return false;\n" ++
    body ++ "if (getClass() != obj.getClass()) return false;\n" ++
    Text.when (!c.args.isEmpty)
      (Text.when (!params.isEmpty) (body ++ "@SuppressWarnings(\"rawtypes\")\n") ++
        body ++ c.name ++ " other = (" ++ c.name ++ ")obj;\n" ++
        (equalSteps c).flatMap fun (name, form) =>
          form.text body (ownField name) (otherField name)) ++
    body ++ "return true;\n" ++
    indent ++ "\x7d"

/-- A field as the printed form shows it; arrays are shown with their elements. -/
def fieldString (a : Arg) : Text :=
  match a.type with
  | .array elem =>
    arraysMethod (isDeep elem) "toString" "deepToString" ++ "(" ++ ownField a.name ++ ")"
  | _ => ownField a.name

/-- The fields of a printed form: the first behind a parenthesis, the others behind commas. -/
def fieldStrings (separator : Text) : List Arg → Text
  | [] => []
  | a :: rest =>
    separator ++ a.name ++ " = \" + " ++ fieldString a ++ " + \"" ++ fieldStrings ", " rest

/-- The method for the printed form. -/
def toStringMethod (indent : Text) (c : Constructor) : Text :=
  indent ++ "@Override\n" ++
    indent ++ "public String toString() \x7b\n" ++
    indent ++ "   return \"" ++ c.name ++ fieldStrings "(" c.args ++
    Text.when (!c.args.isEmpty) ")" ++ "\";\n" ++
    indent ++ "\x7d"

end AdtCompiler.Java
