import AdtCompiler.Text.FreshName
import AdtCompiler.Syntax.Doc

/-!
# Java types

Types as Java spells them. Type arguments of Java classes must be reference types, so a
primitive that is a type argument is spelled as its box.
-/

namespace AdtCompiler

/-- The class that boxes a primitive; a primitive outside the list has none. -/
def Primitive.javaBox : Primitive → Text
  | .boolean => "Boolean"
  | .byte => "Byte"
  | .char => "Character"
  | .double => "Double"
  | .float => "Float"
  | .int => "Integer"
  | .long => "Long"
  | .short => "Short"
  | .unlisted _ _ => ""

namespace Ty

mutual

/-- The type in Java. A type that is not given leaves no text. -/
def javaText : Ty → Text
  | .prim p => p.name
  | .cls name args =>
    match args with
    | [] => name
    | arg :: rest => name ++ "<" ++ javaArg arg ++ javaArgs rest ++ ">"
  | .array elem => javaText elem ++ "[]"
  | .absent => []

/-- A type argument in Java. -/
def javaArg : Ty → Text
  | .prim p => p.javaBox
  | .cls name args =>
    match args with
    | [] => name
    | arg :: rest => name ++ "<" ++ javaArg arg ++ javaArgs rest ++ ">"
  | .array elem => javaText elem ++ "[]"
  | .absent => []

/-- The type arguments behind the first. -/
def javaArgs : List Ty → Text
  | [] => []
  | arg :: rest => ", " ++ javaArg arg ++ javaArgs rest

end

end Ty

namespace Java

/-- Type parameters between angle brackets; nothing if there are none. -/
def typeParams (params : List Text) : Text :=
  if params.isEmpty then [] else "<" ++ Text.join ", " params ++ ">"

/-- The type parameter that stands for the result of a visitor. -/
def resultParam (params : List Text) : Text := FreshName.choose "ResultType" params

/-- The type parameters of a visitor with a result. -/
def withResult (params : List Text) : List Text := params ++ [resultParam params]

/-- The parameters of a method: types and names. -/
def argList (args : List Arg) : Text :=
  Text.join ", " (args.map fun a => a.type.javaText ++ " " ++ a.name)

/-- The names of arguments, as they are passed on. -/
def argNames (args : List Arg) : Text := Text.join ", " (args.map (·.name))

end Java

end AdtCompiler
