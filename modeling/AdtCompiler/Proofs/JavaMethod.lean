import AdtCompiler.Backend.JavaBody
import Mathlib.Data.List.Dedup

/-!
# Generated methods as programs

The methods for equality and for hash codes are programs of a small language: expressions over
primitive values and references, and statements that declare and set locals, leave under a condition
and return. Here is that language, with its text and its meaning, and the two methods in it.

Objects live in a runtime that also has the library's methods. What those compute is left open, and
so is the comparison of floating-point numbers by `==`. A program that reads a field of no object,
calls a method on none, or mixes types that do not go together has no result.

## Contents

- `Expr`, `Stmt`, `Method`: programs and their text
- `Value`, `Runtime`: what programs compute with
- `Expr.eval`, `Stmt.exec`, `Method.call`: what programs compute
- `hashCodeOf`, `equalsOf`: the two methods, with `text_hashCodeOf` and `text_equalsOf`
-/

namespace AdtCompiler.Java

/-! ## Expressions and statements -/

/-- An operator between two expressions. -/
inductive Operator where
  | times
  | plus
  | xor
  | equal
  | differ
deriving Repr, DecidableEq

/-- An operator as it is written. -/
def Operator.text : Operator → Text
  | times => " * "
  | plus => " + "
  | xor => " ^ "
  | equal => " == "
  | differ => " != "

/-- An expression. -/
inductive Expr where
  /-- A name alone: a local or, where there is no local of the name, a field of the object that the
  method is called on. -/
  | name (name : Text)
  /-- The object that the method is called on. -/
  | this
  | null
  | number (n : Nat)
  | truth (b : Bool)
  /-- A field of an object. -/
  | field (object : Expr) (name : Text)
  | binary (op : Operator) (a b : Expr)
  /-- The bits of a number moved right, with zeros behind them. -/
  | shift (a : Expr) (places : Nat)
  | negation (a : Expr)
  | choice (condition a b : Expr)
  /-- A number as an `int`, without the bits that do not fit. -/
  | narrow (a : Expr)
  /-- An object as one of a class. -/
  | cast (className : Text) (a : Expr)
  /-- The class of the object that the method is called on. -/
  | ownClass
  | classOf (a : Expr)
  | equals (a b : Expr)
  | hashCode (a : Expr)
  | arraysEqual (deep : Bool) (a b : Expr)
  | arraysHash (deep : Bool) (a : Expr)
  | doubleBits (a : Expr)
  | floatBits (a : Expr)
  /-- An expression in parentheses. -/
  | group (a : Expr)
deriving Repr, DecidableEq

namespace Expr

/-- An expression as it is written. -/
def text : Expr → Text
  | name n => n
  | this => "this"
  | null => "null"
  | number n => Text.decimal n
  | truth b => if b then "true" else "false"
  | field object n => object.text ++ "." ++ n
  | binary op a b => a.text ++ op.text ++ b.text
  | shift a places => a.text ++ " >>> " ++ Text.decimal places
  | negation a => "!" ++ a.text
  | choice condition a b => condition.text ++ " ? " ++ a.text ++ " : " ++ b.text
  | narrow a => "(int)" ++ a.text
  | cast className a => "(" ++ className ++ ")" ++ a.text
  | ownClass => "getClass()"
  | classOf a => a.text ++ ".getClass()"
  | equals a b => a.text ++ ".equals(" ++ b.text ++ ")"
  | hashCode a => a.text ++ ".hashCode()"
  | arraysEqual deep a b =>
    arraysMethod deep "equals" "deepEquals" ++ "(" ++ a.text ++ ", " ++ b.text ++ ")"
  | arraysHash deep a => arraysMethod deep "hashCode" "deepHashCode" ++ "(" ++ a.text ++ ")"
  | doubleBits a => "Double.doubleToLongBits(" ++ a.text ++ ")"
  | floatBits a => "Float.floatToIntBits(" ++ a.text ++ ")"
  | group a => "(" ++ a.text ++ ")"

/-- The fields that an expression reads through an object, in order. -/
def reads : Expr → List (Expr × Text)
  | field object n => object.reads ++ [(object, n)]
  | binary _ a b | equals a b | arraysEqual _ a b => a.reads ++ b.reads
  | choice condition a b => condition.reads ++ a.reads ++ b.reads
  | shift a _ | negation a | narrow a | cast _ a | classOf a | hashCode a | arraysHash _ a
  | doubleBits a | floatBits a | group a => a.reads
  | name _ | this | null | number _ | truth _ | ownClass => []

/-- The names that stand alone in an expression, in order. -/
def bareNames : Expr → List Text
  | name n => [n]
  | field object _ => object.bareNames
  | binary _ a b | equals a b | arraysEqual _ a b => a.bareNames ++ b.bareNames
  | choice condition a b => condition.bareNames ++ a.bareNames ++ b.bareNames
  | shift a _ | negation a | narrow a | cast _ a | classOf a | hashCode a | arraysHash _ a
  | doubleBits a | floatBits a | group a => a.bareNames
  | this | null | number _ | truth _ | ownClass => []

end Expr

/-- A statement. -/
inductive Stmt where
  /-- A line with an annotation of the declaration behind it. -/
  | marker (text : Text)
  /-- The declaration of a local, with its modifiers and its type. -/
  | declare (type name : Text) (e : Expr)
  | assign (name : Text) (e : Expr)
  | giveBack (e : Expr)
  /-- A return under a condition. -/
  | giveBackIf (condition e : Expr)
  /-- Two statements, the first of which is in a block of its own. -/
  | branch (condition : Expr) (a b : Stmt)
deriving Repr, DecidableEq

namespace Stmt

/-- A statement as it is written, without the indentation of its first line. -/
def text (indent : Text) : Stmt → Text
  | marker t => t ++ "\n"
  | declare type name e => type ++ " " ++ name ++ " = " ++ e.text ++ ";\n"
  | assign name e => name ++ " = " ++ e.text ++ ";\n"
  | giveBack e => "return " ++ e.text ++ ";\n"
  | giveBackIf condition e => "if (" ++ condition.text ++ ") return " ++ e.text ++ ";\n"
  | branch condition a b =>
    "if (" ++ condition.text ++ ") \x7b\n" ++ indent ++ "   " ++ a.text (indent ++ "   ") ++
      indent ++ "\x7d else " ++ b.text indent

/-- The fields that a statement reads through an object, in order. -/
def reads : Stmt → List (Expr × Text)
  | marker _ => []
  | declare _ _ e | assign _ e | giveBack e => e.reads
  | giveBackIf condition e => condition.reads ++ e.reads
  | branch condition a b => condition.reads ++ a.reads ++ b.reads

/-- The names that stand alone in a statement, those it sets apart. -/
def bareNames : Stmt → List Text
  | marker _ => []
  | declare _ _ e | assign _ e | giveBack e => e.bareNames
  | giveBackIf condition e => condition.bareNames ++ e.bareNames
  | branch condition a b => condition.bareNames ++ a.bareNames ++ b.bareNames

end Stmt

/-- A method that overrides one of every object. -/
structure Method where
  head : Text
  params : List Text
  body : List Stmt
deriving Repr, DecidableEq

namespace Method

/-- The lines of statements. -/
def bodyText (indent : Text) (body : List Stmt) : Text :=
  body.flatMap fun s => indent ++ s.text indent

/-- A method as it is written. -/
def text (indent : Text) (m : Method) : Text :=
  indent ++ "@Override\n" ++ indent ++ m.head ++ " \x7b\n" ++ bodyText (indent ++ "   ") m.body ++
    indent ++ "\x7d"

/-- The fields that each statement reads, statements that read none left out. -/
def steps (m : Method) : List (List (Expr × Text)) :=
  (m.body.map fun s => s.reads.dedup).filter (· ≠ [])

/-- The names that stand alone in a method. -/
def bareNames (m : Method) : List Text := m.body.flatMap Stmt.bareNames

@[simp] theorem bodyText_nil (indent : Text) : bodyText indent [] = [] := rfl

@[simp] theorem bodyText_cons (indent : Text) (s : Stmt) (body : List Stmt) :
    bodyText indent (s :: body) = indent ++ (s.text indent ++ bodyText indent body) := by
  simp [bodyText]

@[simp] theorem bodyText_append (indent : Text) (front back : List Stmt) :
    bodyText indent (front ++ back) = bodyText indent front ++ bodyText indent back := by
  simp [bodyText]

@[simp] theorem bodyText_map {α : Type} (indent : Text) (xs : List α) (f : α → Stmt) :
    bodyText indent (xs.map f) = xs.flatMap fun x => indent ++ (f x).text indent := by
  simp [bodyText, List.flatMap_map]

end Method

/-! ## Values and runtimes -/

/-- A reference to an object. -/
abbrev Ref := Nat

/-- A value. Floating-point numbers are kept as their bits in memory, and `ref none` is `null`. -/
inductive Value where
  | boolean (b : Bool)
  | byte (n : BitVec 8)
  | char (n : BitVec 16)
  | short (n : BitVec 16)
  | int (n : BitVec 32)
  | long (n : BitVec 64)
  | float (bits : BitVec 32)
  | double (bits : BitVec 64)
  | ref (r : Option Ref)
deriving Repr, DecidableEq

namespace Value

/-- A value where an `int` is called for. -/
def toInt? : Value → Option (BitVec 32)
  | byte n => some (n.signExtend 32)
  | char n => some (n.setWidth 32)
  | short n => some (n.signExtend 32)
  | int n => some n
  | _ => none

/-- A value where a `long` is called for. -/
def toLong? : Value → Option (BitVec 64)
  | long n => some n
  | v => v.toInt?.map (·.signExtend 64)

@[simp] theorem toInt?_int (n : BitVec 32) : (int n).toInt? = some n := rfl

@[simp] theorem toLong?_long (n : BitVec 64) : (long n).toLong? = some n := rfl

/-- Whether a value is one of a type. -/
def isOf : Ty → Value → Bool
  | .prim .boolean, boolean _ | .prim .byte, byte _ | .prim .char, char _
  | .prim .short, short _ | .prim .int, int _ | .prim .long, long _
  | .prim .float, float _ | .prim .double, double _ => true
  | .cls _ _, ref _ | .array _, ref _ => true
  | _, _ => false

/-- Numbers go into an operation as ints if both can be ints, and else as longs. -/
def arithmetic (f : ∀ {n}, BitVec n → BitVec n → BitVec n) (a b : Value) : Option Value :=
  match a.toInt?, b.toInt? with
  | some x, some y => some (int (f x y))
  | _, _ => do return long (f (← a.toLong?) (← b.toLong?))

end Value

/-- Objects with their classes and fields, and what the methods of the library compute. -/
structure Runtime where
  field : Ref → Text → Option Value
  /-- The object that stands for the class of an object. -/
  classOf : Ref → Ref
  /-- Whether objects of a class are objects of the class with a name. -/
  isClass : Ref → Text → Bool
  equals : Ref → Option Ref → Bool
  hashCode : Ref → BitVec 32
  arraysEqual : Option Ref → Option Ref → Bool
  arraysHash : Option Ref → BitVec 32
  deepEqual : Option Ref → Option Ref → Bool
  deepHash : Option Ref → BitVec 32
  doubleBits : BitVec 64 → BitVec 64
  floatBits : BitVec 32 → BitVec 32
  /-- The comparison of doubles by `==`. -/
  doublesEqual : BitVec 64 → BitVec 64 → Bool
  /-- The comparison of floats by `==`. -/
  floatsEqual : BitVec 32 → BitVec 32 → Bool

namespace Runtime

variable (r : Runtime)

/-- The comparison by `==`. -/
def same : Value → Value → Option Bool
  | .boolean a, .boolean b => some (a == b)
  | .ref a, .ref b => some (a == b)
  | .double a, .double b => some (r.doublesEqual a b)
  | .float a, .float b => some (r.floatsEqual a b)
  | a, b =>
    match a.toInt?, b.toInt? with
    | some x, some y => some (x == y)
    | _, _ => do return (← a.toLong?) == (← b.toLong?)

/-- What an operator gives. -/
def operate : Operator → Value → Value → Option Value
  | .times, a, b => a.arithmetic (· * ·) b
  | .plus, a, b => a.arithmetic (· + ·) b
  | .xor, a, b => a.arithmetic (· ^^^ ·) b
  | .equal, a, b => (r.same a b).map .boolean
  | .differ, a, b => (r.same a b).map fun same => .boolean !same

@[simp] theorem same_boolean (a b : Bool) : r.same (.boolean a) (.boolean b) = some (a == b) := rfl

@[simp] theorem same_ref (a b : Option Ref) : r.same (.ref a) (.ref b) = some (a == b) := rfl

@[simp] theorem same_int (a b : BitVec 32) : r.same (.int a) (.int b) = some (a == b) := rfl

@[simp] theorem same_long (a b : BitVec 64) : r.same (.long a) (.long b) = some (a == b) := rfl

@[simp] theorem operate_xor (a b : BitVec 64) :
    r.operate .xor (.long a) (.long b) = some (.long (a ^^^ b)) := rfl

@[simp] theorem operate_equal (a b : Value) :
    r.operate .equal a b = (r.same a b).map .boolean := rfl

@[simp] theorem operate_differ (a b : Value) :
    r.operate .differ a b = (r.same a b).map fun same => .boolean !same := rfl

end Runtime

/-! ## What programs compute -/

/-- The locals of a method, latest first. -/
abbrev Locals := List (Text × Value)

/-- What an expression computes. -/
@[simp] def Expr.eval (r : Runtime) (self : Ref) (locals : Locals) : Expr → Option Value
  -- a local hides a field of its name
  | .name n => locals.lookup n <|> r.field self n
  | .this => some (.ref (some self))
  | .null => some (.ref none)
  | .number n => some (.int (BitVec.ofNat 32 n))
  | .truth b => some (.boolean b)
  | .field object n =>
    match object.eval r self locals with
    | some (.ref (some o)) => r.field o n
    | _ => none
  | .binary op a b => do r.operate op (← a.eval r self locals) (← b.eval r self locals)
  | .shift a places =>
    match a.eval r self locals with
    -- only the low bits of the number of places count
    | some (.long n) => some (.long (n >>> (places % 64)))
    | some v => do return .int ((← v.toInt?) >>> (places % 32))
    | none => none
  | .negation a =>
    match a.eval r self locals with
    | some (.boolean b) => some (.boolean !b)
    | _ => none
  | .choice condition a b =>
    match condition.eval r self locals with
    | some (.boolean true) => a.eval r self locals
    | some (.boolean false) => b.eval r self locals
    | _ => none
  | .narrow a => do return .int ((← (← a.eval r self locals).toLong?).setWidth 32)
  | .cast className a =>
    match a.eval r self locals with
    | some (.ref none) => some (.ref none)
    | some (.ref (some o)) =>
      if r.isClass (r.classOf o) className then some (.ref (some o)) else none
    | _ => none
  | .ownClass => some (.ref (some (r.classOf self)))
  | .classOf a =>
    match a.eval r self locals with
    | some (.ref (some o)) => some (.ref (some (r.classOf o)))
    | _ => none
  | .equals a b =>
    match a.eval r self locals, b.eval r self locals with
    | some (.ref (some o)), some (.ref other) => some (.boolean (r.equals o other))
    | _, _ => none
  | .hashCode a =>
    match a.eval r self locals with
    | some (.ref (some o)) => some (.int (r.hashCode o))
    | _ => none
  | .arraysEqual deep a b =>
    match a.eval r self locals, b.eval r self locals with
    | some (.ref x), some (.ref y) =>
      some (.boolean (if deep then r.deepEqual x y else r.arraysEqual x y))
    | _, _ => none
  | .arraysHash deep a =>
    match a.eval r self locals with
    | some (.ref x) => some (.int (if deep then r.deepHash x else r.arraysHash x))
    | _ => none
  | .doubleBits a =>
    match a.eval r self locals with
    | some (.double bits) => some (.long (r.doubleBits bits))
    | _ => none
  | .floatBits a =>
    match a.eval r self locals with
    | some (.float bits) => some (.int (r.floatBits bits))
    | _ => none
  | .group a => a.eval r self locals

/-- How a statement ends. -/
inductive Outcome where
  | next (locals : Locals)
  | returned (value : Value)

/-- What a statement does. -/
@[simp] def Stmt.exec (r : Runtime) (self : Ref) : Stmt → Locals → Option Outcome
  | .marker _, locals => some (.next locals)
  | .declare _ name e, locals => do return .next ((name, ← e.eval r self locals) :: locals)
  | .assign name e, locals => do
    let v ← e.eval r self locals
    if (locals.lookup name).isSome then some (.next ((name, v) :: locals)) else none
  | .giveBack e, locals => do return .returned (← e.eval r self locals)
  | .giveBackIf condition e, locals =>
    match condition.eval r self locals with
    | some (.boolean true) => do return .returned (← e.eval r self locals)
    | some (.boolean false) => some (.next locals)
    | _ => none
  | .branch condition a b, locals =>
    match condition.eval r self locals with
    | some (.boolean true) => a.exec r self locals
    | some (.boolean false) => b.exec r self locals
    | _ => none

/-- What statements in a row return. -/
@[simp] def execAll (r : Runtime) (self : Ref) : List Stmt → Locals → Option Value
  | [], _ => none
  | s :: rest, locals =>
    match s.exec r self locals with
    | some (.next locals) => execAll r self rest locals
    | some (.returned v) => some v
    | none => none

/-- What a method returns when it is called on an object. -/
def Method.call (r : Runtime) (m : Method) (self : Ref) (args : List Value) : Option Value :=
  execAll r self m.body (m.params.zip args)

/-! ## The two methods -/

/-- The hash of a field that is read by `read`. -/
def HashForm.expr (read : Expr) : HashForm → Expr
  | .value => read
  | .truth => .group (.choice read (.number 1231) (.number 1237))
  | .long => .narrow (.group (.binary .xor read (.group (.shift read 32))))
  | .doubleBits =>
    .narrow (.group (.binary .xor (.doubleBits read) (.group (.shift (.doubleBits read) 32))))
  | .floatBits => .floatBits read
  | .array deep => .arraysHash deep read
  | .object => .group (.choice (.group (.binary .equal read .null)) (.number 0) (.hashCode read))

/-- The statement that leaves the comparison when the fields read by `own` and `other` differ. -/
def EqualForm.stmt (own other : Expr) : EqualForm → Stmt
  | .value => .giveBackIf (.binary .differ own other) (.truth false)
  | .doubleBits =>
    .giveBackIf (.binary .differ (.doubleBits own) (.doubleBits other)) (.truth false)
  | .floatBits => .giveBackIf (.binary .differ (.floatBits own) (.floatBits other)) (.truth false)
  | .array deep => .giveBackIf (.negation (.arraysEqual deep own other)) (.truth false)
  | .object =>
    .branch (.binary .equal own .null) (.giveBackIf (.binary .differ other .null) (.truth false))
      (.giveBackIf (.negation (.equals own other)) (.truth false))

/-- The step of a hash code for an argument. -/
def mixing (a : Arg) : Stmt :=
  .assign "result" (.binary .plus (.binary .times (.name "prime") (.name "result"))
    ((hashForm a.type).expr (.field .this a.name)))

/-- The step of an equality for an argument. -/
def comparison (a : Arg) : Stmt :=
  (equalForm a.type).stmt (.field .this a.name) (.field (.name "other") a.name)

/-- The method for hash codes. -/
def hashCodeOf (c : Constructor) : Method where
  head := "public int hashCode()"
  params := []
  body :=
    if c.args.isEmpty then [.giveBack (.number 0)]
    else
      [.declare "final int" "prime" (.number 31), .declare "int" "result" (.number 1)] ++
        c.args.map mixing ++ [.giveBack (.name "result")]

/-- The declaration of the other object, which has the class of this one. -/
def otherObject (className : Text) (params : List Text) : List Stmt :=
  (if params.isEmpty then [] else [.marker "@SuppressWarnings(\"rawtypes\")"]) ++
    [.declare className "other" (.cast className (.name "obj"))]

/-- The method for equality. -/
def equalsOf (c : Constructor) (params : List Text) : Method where
  head := "public boolean equals(Object obj)"
  params := ["obj"]
  body :=
    [.giveBackIf (.binary .equal .this (.name "obj")) (.truth true),
      .giveBackIf (.binary .equal (.name "obj") .null) (.truth false),
      .giveBackIf (.binary .differ .ownClass (.classOf (.name "obj"))) (.truth false)] ++
    (if c.args.isEmpty then [] else otherObject c.name params ++ c.args.map comparison) ++
    [.giveBack (.truth true)]

end AdtCompiler.Java

/-! ## Their text -/

namespace AdtCompiler

namespace Text

/-- Literals next to each other are one literal. -/
theorem ofString_append (a b : String) : ofString a ++ ofString b = ofString (a ++ b) := by
  simp [ofString]

theorem ofString_append_append (a b : String) (t : Text) :
    ofString a ++ (ofString b ++ t) = ofString (a ++ b) ++ t := by
  rw [← List.append_assoc, ofString_append]

end Text

namespace Java

open Text (ofString_append ofString_append_append)

/-- The numbers that stand in the two methods. -/
theorem decimal_literals :
    Text.decimal 0 = "0" ∧ Text.decimal 1 = "1" ∧ Text.decimal 31 = "31" ∧
      Text.decimal 32 = "32" ∧ Text.decimal 1231 = "1231" ∧ Text.decimal 1237 = "1237" := by
  decide +kernel

theorem text_mixing (indent : Text) (a : Arg) :
    (mixing a).text indent =
      "result = prime * result + " ++ (hashForm a.type).text (ownField a.name) ++ ";\n" := by
  -- both sides are the same names once literals next to each other are joined
  simp only [mixing, Stmt.text, Expr.text, Operator.text]
  cases hashForm a.type <;>
    simp only [HashForm.expr, HashForm.text, Expr.text, Operator.text, ownField, decimal_literals,
      List.append_assoc, ofString_append, ofString_append_append, String.reduceAppend]

theorem text_comparison (indent : Text) (a : Arg) :
    indent ++ (comparison a).text indent =
      (equalForm a.type).text indent (ownField a.name) (otherField a.name) := by
  rw [comparison]
  cases equalForm a.type <;>
    simp only [EqualForm.stmt, EqualForm.text, Stmt.text, Expr.text, Operator.text, ownField,
      otherField, Bool.false_eq_true, if_false, List.append_assoc, ofString_append,
      ofString_append_append, String.reduceAppend]

/-- The method for hash codes, read as a program, is the one that is written. -/
theorem text_hashCodeOf (indent : Text) (c : Constructor) :
    (hashCodeOf c).text indent = hashCodeMethod indent c := by
  rw [Method.text, hashCodeOf, hashCodeMethod]
  cases hargs : c.args.isEmpty with
  | true =>
    simp only [if_true, Method.bodyText_cons, Method.bodyText_nil, Stmt.text, Expr.text,
      decimal_literals, List.append_assoc, List.append_nil, ofString_append, String.reduceAppend]
  | false =>
    simp only [Bool.false_eq_true, if_false, Method.bodyText_append, Method.bodyText_map,
      Method.bodyText_cons, Method.bodyText_nil, text_mixing, Stmt.text, Expr.text, hashSteps,
      List.flatMap_map, decimal_literals, List.append_assoc, List.append_nil,
      ofString_append, ofString_append_append, String.reduceAppend]

theorem bodyText_otherObject (indent className : Text) (params : List Text) :
    Method.bodyText indent (otherObject className params) =
      Text.when (!params.isEmpty) (indent ++ "@SuppressWarnings(\"rawtypes\")\n") ++
        indent ++ className ++ " other = (" ++ className ++ ")obj;\n" := by
  cases hparams : params.isEmpty <;>
    simp only [otherObject, hparams, Text.when, Bool.not_true, Bool.not_false, Bool.false_eq_true,
      if_true, if_false, Method.bodyText_append, Method.bodyText_cons, Method.bodyText_nil,
      Stmt.text, Expr.text, List.append_assoc, List.nil_append, List.append_nil, ofString_append,
      ofString_append_append, String.reduceAppend]

theorem bodyText_comparisons (indent : Text) (c : Constructor) :
    Method.bodyText indent (c.args.map comparison) =
      (equalSteps c).flatMap fun (name, form) =>
        form.text indent (ownField name) (otherField name) := by
  simp only [Method.bodyText_map, text_comparison, equalSteps, List.flatMap_map]

/-- The method for equality, read as a program, is the one that is written. -/
theorem text_equalsOf (indent : Text) (c : Constructor) (params : List Text) :
    (equalsOf c params).text indent = equalsMethod indent c params := by
  rw [Method.text, equalsOf, equalsMethod]
  cases hargs : c.args.isEmpty <;>
    simp only [Bool.not_true, Bool.not_false, Bool.false_eq_true, if_true, if_false, Text.when,
      Method.bodyText_append, bodyText_otherObject, bodyText_comparisons, Method.bodyText_cons,
      Method.bodyText_nil, Stmt.text, Expr.text, Operator.text, List.append_assoc, List.append_nil,
      ofString_append, ofString_append_append, String.reduceAppend]

end Java

end AdtCompiler
