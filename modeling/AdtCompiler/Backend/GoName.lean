import AdtCompiler.Text.FreshName
import AdtCompiler.Text.Uppercase
import AdtCompiler.Token.Word

/-!
# Go names

The words that Go keeps for itself, and the names that generated Go code derives from declared
ones.
-/

namespace AdtCompiler.Go

/-- The keywords of the language. -/
def keywords : List Text :=
  ["break", "case", "chan", "const", "continue", "default", "defer", "else",
    "fallthrough", "for", "func", "go", "goto", "if", "import", "interface",
    "map", "package", "range", "return", "select", "struct", "switch", "type",
    "var"]

/-- Predeclared types and constants: a declaration named like one of them would hide it from
the generated code. -/
def predeclared : List Text :=
  ["any", "bool", "byte", "comparable", "complex64", "complex128", "error",
    "float32", "float64", "int", "int8", "int16", "int32", "int64", "rune",
    "string", "uint", "uint8", "uint16", "uint32", "uint64", "uintptr",
    "true", "false", "iota", "nil",
    "_"]

/-- The words that no declared name may use. -/
def reservedWords : List Text := keywords ++ predeclared

/-- Whether a text can stand as a name in Go. -/
def isName (t : Text) : Bool := isIdentifier t && !keywords.contains t

/-- The name of a field: the declared name with its first letter in upper case. -/
def exported (name : Text) : Text :=
  match name.runes with
  | .scalar c :: _ =>
    if c = 0xFFFD then name else Text.ofCode (Text.toUpper c) ++ name.drop (Text.ofCode c).length
  | _ => name

/-- Type parameters as they are declared. -/
def paramDecl (params : List Text) : Text :=
  Text.when (!params.isEmpty) ("[" ++ Text.join ", " (params.map (· ++ " any")) ++ "]")

/-- Type parameters as they are passed on. -/
def paramArgs (params : List Text) : Text :=
  Text.when (!params.isEmpty) ("[" ++ Text.join ", " params ++ "]")

/-! ## Names of generated declarations -/

/-- The function that builds a constructor. -/
def builderName (constructor : Text) : Text := "New" ++ constructor

/-- The function that tells the constructors of a data type apart. -/
def matchName (dataType : Text) : Text := "Match" ++ dataType

/-- The method that marks the constructors of a data type. -/
def markerName (dataType : Text) : Text := "is" ++ dataType

end AdtCompiler.Go
