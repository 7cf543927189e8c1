import AdtCompiler.Backend.GoName
import AdtCompiler.Syntax.Doc

/-!
# Go types

Types as Go spells them. Collections and the classes of the standard library have native forms.
A record of the same document is held by a pointer, so that recursive records stay finite.
-/

namespace AdtCompiler

/-- A type in Go. -/
inductive GoType where
  | named (name : Text) (args : List GoType)
  | pointer (target : GoType)
  | slice (elem : GoType)
  | mapping (key value : GoType)
  /-- The type with one value. -/
  | unit
  /-- A primitive that has no form in Go. -/
  | missing
deriving Repr, Inhabited

namespace GoType

mutual

/-- The text of a type. -/
def text : GoType → Text
  | named name args =>
    match args with
    | [] => name
    | arg :: rest => name ++ "[" ++ text arg ++ textMore rest ++ "]"
  | pointer target => "*" ++ text target
  | slice elem => "[]" ++ text elem
  | mapping key value => "map[" ++ text key ++ "]" ++ text value
  | unit => "struct\x7b\x7d"
  | missing => []

/-- The type arguments behind the first. -/
def textMore : List GoType → Text
  | [] => []
  | arg :: rest => ", " ++ text arg ++ textMore rest

end

/-- Whether a text names a type, in this package or in another. -/
def isTypeName (t : Text) : Bool :=
  match Text.splitOn (Text.byte '.') t with
  | [name] => Go.isName name
  | [package, name] => Go.isName package && Go.isName name
  | _ => false

mutual

/-- Whether the text of the type can be read as a type. -/
def isReadable : GoType → Bool
  | named name args => isTypeName name && allReadable args
  | pointer target => target.isReadable
  | slice elem => elem.isReadable
  | mapping key value => key.isReadable && value.isReadable
  | unit => true
  | missing => false

/-- Whether all types of a list can be read. -/
def allReadable : List GoType → Bool
  | [] => true
  | t :: rest => t.isReadable && allReadable rest

end

/-- A type that is just a name. -/
def word (name : Text) : GoType := named name []

end GoType

/-- The form of a primitive in Go. -/
def Primitive.goType : Primitive → GoType
  | .boolean => .word "bool"
  | .byte => .word "byte"
  | .char => .word "rune"
  | .double => .word "float64"
  | .float => .word "float32"
  | .int => .word "int32"
  | .long => .word "int64"
  | .short => .word "int16"
  | .unlisted _ _ => .missing

namespace Go

/-- The native forms of classes without type arguments. -/
def nativeClasses : List (Text × GoType) :=
  [("String", .word "string"), ("Boolean", .word "bool"), ("Byte", .word "byte"),
    ("Character", .word "rune"), ("Double", .word "float64"), ("Float", .word "float32"),
    ("Integer", .word "int32"), ("Long", .word "int64"), ("Short", .word "int16"),
    ("Object", .word "any")]

/-- Type arguments as they are read behind a name. A comma may follow the last of them, so one
that is missing behind others is none. -/
def readArgs : List GoType → List GoType
  | [a, .missing] => [a]
  | a :: rest => a :: readArgs rest
  | [] => []

/-- The form of a class whose type arguments have their forms already. -/
def classType (records : List Text) (name : Text) (args : List GoType) : GoType :=
  let declared := fun args : List GoType =>
    let type := GoType.named name (readArgs args)
    if records.contains name then GoType.pointer type else type
  match args with
  | [] =>
    match nativeClasses.lookup name with
    | some native => native
    | none => declared []
  | [a] =>
    if name = "List" then .slice a
    else if name = "Set" then .mapping a .unit
    else if name = "Optional" then .pointer a
    else declared [a]
  | [a, b] => if name = "Map" then .mapping a b else declared [a, b]
  | args => declared args

mutual

/-- The form of a type, given the names of the records of the document. A type that is not given
stands for any. -/
def typeOf (records : List Text) : Ty → GoType
  | .prim p => p.goType
  | .cls name args => classType records name (typesOf records args)
  | .array elem => .slice (typeOf records elem)
  | .absent => .word "any"

/-- The forms of the types of a list. -/
def typesOf (records : List Text) : List Ty → List GoType
  | [] => []
  | t :: rest => typeOf records t :: typesOf records rest

end

/-- The names of the records of a document. -/
def recordNames (doc : Doc) : List Text :=
  (doc.types.filter DataType.isRecord).map (·.name)

end Go

end AdtCompiler
