import AdtCompiler.Text.Basic

/-!
# Types of arguments

The type of a constructor argument is a primitive type, a class with type arguments, or an
array. A document that was built by hand rather than read may also lack a type somewhere, or
hold a primitive code that names no type.
-/

namespace AdtCompiler

/-- A primitive type. `unlisted` holds a code beyond the eight that exist. -/
inductive Primitive where
  | boolean
  | byte
  | char
  | double
  | float
  | int
  | long
  | short
  | unlisted (code : UInt8) (beyond : 7 < code)
deriving Repr, DecidableEq, Inhabited

namespace Primitive

/-- The primitive types in the order of their codes. -/
def listed : List Primitive := [boolean, byte, char, double, float, int, long, short]

/-- The primitive type of a code. -/
def ofCode (n : UInt8) : Primitive :=
  if beyond : 7 < n then unlisted n beyond else listed[n.toNat]?.getD boolean

/-- The name of a primitive type in a description. -/
def name : Primitive → String
  | boolean => "boolean"
  | byte => "byte"
  | char => "char"
  | double => "double"
  | float => "float"
  | int => "int"
  | long => "long"
  | short => "short"
  | unlisted _ _ => "primitive(?)"

/-- The primitive type of a name. -/
def ofName? (name : String) : Option Primitive := listed.find? (·.name == name)

end Primitive

/-- The type of an argument. -/
inductive Ty where
  | prim (kind : Primitive)
  | cls (name : Text) (args : List Ty)
  | array (elem : Ty)
  /-- No type was given. -/
  | absent
deriving Repr, Inhabited

namespace Ty

mutual

/-- Whether the type and all its parts are given. -/
def isComplete : Ty → Bool
  | prim _ => true
  | cls _ args => allComplete args
  | array elem => elem.isComplete
  | absent => false

/-- Whether all types of a list are given. -/
def allComplete : List Ty → Bool
  | [] => true
  | t :: rest => t.isComplete && allComplete rest

end

mutual

/-- The type as it is written in a description. -/
def text : Ty → Text
  | prim kind => kind.name
  | cls name args => if args.isEmpty then name else name ++ "<" ++ argsText args ++ ">"
  | array elem => elem.text ++ "[]"
  | absent => []

/-- Type arguments with commas between them. -/
def argsText : List Ty → Text
  | [] => []
  | [t] => t.text
  | t :: rest => t.text ++ ", " ++ argsText rest

end

mutual

/-- Structural equality. -/
def equal : Ty → Ty → Bool
  | prim a, prim b => a == b
  | cls a as, cls b bs => a == b && allEqual as bs
  | array a, array b => a.equal b
  | absent, absent => true
  | _, _ => false

/-- Structural equality of the types of two lists, in order. -/
def allEqual : List Ty → List Ty → Bool
  | [], [] => true
  | a :: as, b :: bs => a.equal b && allEqual as bs
  | _, _ => false

end

end Ty

end AdtCompiler
