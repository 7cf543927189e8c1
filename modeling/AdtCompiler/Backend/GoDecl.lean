import AdtCompiler.Backend.GoType
import AdtCompiler.Text.Quoted

/-!
# Go declarations

The declarations of a data type. A record becomes a struct. A data type with several
constructors becomes an interface with a marker method, a struct for each constructor, and a
function that calls the handler of the constructor at hand. Every constructor comes with a
function that builds it and a method that prints it.

The texts are laid out in the standard form of the language: tabs for indentation, and the
types of fields in one column.
-/

namespace AdtCompiler.Go

/-! ## Structs -/

/-- The field of an argument: its exported name and its type. -/
abbrev Field := Text × GoType

/-- The fields of a constructor. -/
def fieldsOf (records : List Text) (c : Constructor) : List Field :=
  c.args.map fun a => (exported a.name, typeOf records a.type)

/-- The number of characters of a name. -/
def nameWidth (name : Text) : Nat := name.runes.length

/-- Whether a field has a type of its own; a name alone is an embedded type. -/
def hasType (f : Field) : Bool :=
  match f.2 with
  | .missing => false
  | _ => true

/-- The width of the column of names: the widest of the fields at hand, up to the next embedded
type. -/
def columnWidth : List Field → Nat
  | [] => 0
  | f :: rest => if hasType f then max (nameWidth f.1) (columnWidth rest) else 0

/-- The lines of fields; `width` is the column that the fields before have set. -/
def fieldLines : (width : Option Nat) → List Field → Text
  | _, [] => []
  | width, f :: rest =>
    if hasType f then
      let column := width.getD (columnWidth (f :: rest))
      "\t" ++ f.1 ++ Text.times (column + 1 - nameWidth f.1) " " ++ f.2.text ++ "\n" ++
        fieldLines (some column) rest
    else "\t" ++ f.1 ++ "\n" ++ fieldLines none rest

/-- The declaration of a struct. -/
def structDecl (name : Text) (params : List Text) (fields : List Field) : Text :=
  let body : Text :=
    if fields.isEmpty then "struct\x7b\x7d\n"
    else "struct \x7b\n" ++ fieldLines none fields ++ "\x7d\n"
  "type " ++ name ++ paramDecl params ++ " " ++ body

/-! ## Builders -/

/-- The parameters of the function that builds a constructor. They are renamed where they would
hide the struct or a type parameter. -/
def builderParams (params : List Text) (struct_ : Text) (c : Constructor) : List Text :=
  FreshName.chooseMany (params ++ [struct_]) (c.args.map (·.name))

/-- A parameter with its type. -/
def paramText (name : Text) (type : GoType) : Text :=
  name ++ Text.when (hasType (name, type)) (" " ++ type.text)

/-- The function that builds a constructor as the given struct, and returns the given type. -/
def builder (records params : List Text) (struct_ result : Text) (c : Constructor) : Text :=
  let names := builderParams params struct_ c
  let decls := names.zipWith (fun p a => paramText p (typeOf records a.type)) c.args
  let inits := names.zipWith (fun p a => exported a.name ++ ": " ++ p) c.args
  "\n// " ++ builderName c.name ++ " builds a " ++ c.name ++ ".\n" ++
    "func " ++ builderName c.name ++ paramDecl params ++ "(" ++ Text.join ", " decls ++ ") " ++
    result ++ " \x7b\n" ++
    "\treturn " ++ struct_ ++ paramArgs params ++ "\x7b" ++ Text.join ", " inits ++ "\x7d\n\x7d\n"

/-! ## Printed forms -/

/-- The receiver of the printing method. -/
def receiverName (params : List Text) : Text := FreshName.choose "x" ("fmt" :: params)

/-- The method that prints a constructor held by a struct. -/
def stringer (struct_ : Text) (params : List Text) (c : Constructor) : Text :=
  let type := struct_ ++ paramArgs params
  if c.args.isEmpty then
    "\nfunc (" ++ type ++ ") String() string \x7b\n\treturn " ++ c.name.quoted ++ "\n\x7d\n"
  else
    let receiver := receiverName params
    let form := c.name ++ "(" ++ Text.join ", " (c.args.map (·.name ++ " = %v")) ++ ")"
    let values := c.args.map fun a => receiver ++ "." ++ exported a.name
    "\nfunc (" ++ receiver ++ " " ++ type ++ ") String() string \x7b\n\treturn fmt.Sprintf(" ++
      form.quoted ++ ", " ++ Text.join ", " values ++ ")\n\x7d\n"

/-! ## Matching -/

/-- The names that the matching function binds. -/
structure MatchNames where
  /-- The type parameter of the result. -/
  result : Text
  /-- The parameter that holds the value. -/
  value : Text
  /-- The variable of the switch. -/
  switched : Text
  /-- The parameters that hold the handlers, one for each constructor. -/
  handlers : List Text

/-- The names that a matching function must not bind again. -/
def matchTaken (d : DataType) : List Text :=
  d.params ++ d.constructors.map (·.name) ++ [d.name, "fmt", "panic"]

/-- The names that the matching function of a data type binds. -/
def matchNames (d : DataType) : MatchNames :=
  let (result, taken) := FreshName.reserve "R" (matchTaken d)
  let (value, taken) := FreshName.reserve "v" taken
  let (switched, taken) := FreshName.reserve "x" taken
  ⟨result, value, switched, FreshName.chooseMany taken (d.constructors.map ("on" ++ ·.name))⟩

/-- The function that calls the handler of the constructor at hand. -/
def matcher (d : DataType) : Text :=
  let args := paramArgs d.params
  let names := matchNames d
  let handlers := names.handlers.zipWith
    (fun h c => h ++ " func(" ++ c.name ++ args ++ ") " ++ names.result) d.constructors
  let cases := names.handlers.zipWith
    (fun h c =>
      "\tcase " ++ c.name ++ args ++ ":\n\t\treturn " ++ h ++ "(" ++ names.switched ++ ")\n")
    d.constructors
  "\n// " ++ matchName d.name ++ " calls the handler for the variant held by " ++ names.value ++
    ".\n" ++
    "func " ++ matchName d.name ++ paramDecl (d.params ++ [names.result]) ++ "(" ++
    Text.join ", " ((names.value ++ " " ++ d.name ++ args) :: handlers) ++ ") " ++ names.result ++
    " \x7b\n" ++
    "\tswitch " ++ names.switched ++ " := " ++ names.value ++ ".(type) \x7b\n" ++
    cases.flatten ++
    "\t\x7d\n" ++
    "\tpanic(fmt.Sprintf(\"unexpected " ++ d.name ++ " variant %T\", " ++ names.value ++
    "))\n\x7d\n"

/-! ## Data types -/

/-- The declarations of a record. -/
def recordDecls (records : List Text) (d : DataType) (c : Constructor) : Text :=
  "\n// " ++ d.name ++ " is a record.\n" ++
    structDecl d.name d.params (fieldsOf records c) ++
    builder records d.params d.name (d.name ++ paramArgs d.params) c ++
    stringer d.name d.params c

/-- The declarations of a constructor of a variant type. -/
def constructorDecls (records : List Text) (d : DataType) (c : Constructor) : Text :=
  "\n// " ++ c.name ++ " is a " ++ d.name ++ ".\n" ++
    structDecl c.name d.params (fieldsOf records c) ++
    "\nfunc (" ++ c.name ++ paramArgs d.params ++ ") " ++ markerName d.name ++ "() \x7b\x7d\n" ++
    builder records d.params c.name (d.name ++ paramArgs d.params) c ++
    stringer c.name d.params c

/-- The declarations of a variant type. -/
def variantDecls (records : List Text) (d : DataType) : Text :=
  "\n// " ++ d.name ++ " is one of " ++ Text.join ", " (d.constructors.map (·.name)) ++ ".\n" ++
    "type " ++ d.name ++ paramDecl d.params ++ " interface \x7b\n\t" ++ markerName d.name ++
    "()\n\x7d\n" ++
    d.constructors.flatMap (constructorDecls records d) ++
    matcher d

/-- The declarations of a data type. -/
def decls (records : List Text) (d : DataType) : Text :=
  match d.constructors with
  | [c] => recordDecls records d c
  | _ => variantDecls records d

/-- Whether the declarations print or report values, and so need the formatting package. -/
def needsFormatting (d : DataType) : Bool :=
  match d.constructors with
  | [c] => !c.args.isEmpty
  | _ => true

/-! ## What can be read as Go -/

/-- Whether parameters can be read: names without types share the type of the next one that has
a type, or else all of them are types themselves. -/
def areParams (types : List GoType) : Bool :=
  let given := types.map fun t => hasType ([], t)
  given.all (!·) || given.getLast?.getD true

/-- Whether the declarations of a constructor can be read. -/
def isReadableConstructor (records params : List Text) (struct_ : Text) (c : Constructor) : Bool :=
  let types := c.args.map fun a => typeOf records a.type
  isName (builderName c.name) && (c.args.all fun a => isName (exported a.name)) &&
    (builderParams params struct_ c).all isName &&
    (types.all fun t => !hasType ([], t) || t.isReadable) && areParams types

/-- Whether the declarations of a data type can be read: every name is a name, and every type is
a type. -/
def isReadable (records : List Text) (d : DataType) : Bool :=
  isName d.name && d.params.all isName &&
    match d.constructors with
    | [c] => isReadableConstructor records d.params d.name c
    | cs => cs.all fun c => isName c.name && isReadableConstructor records d.params c.name c

end AdtCompiler.Go
