import AdtCompiler.Syntax.Doc

/-!
# Printing documents

The canonical text of a document in the description language: the package, the imports, and
the data types with one constructor on each line. Reading the text gives the document back.
-/

namespace AdtCompiler

/-- An argument as it is written. -/
def Arg.text (a : Arg) : Text := a.type.text ++ " " ++ a.name

/-- A constructor as it is written. -/
def Constructor.text (c : Constructor) : Text :=
  if c.args.isEmpty then c.name
  else c.name ++ "(" ++ Text.join ", " (c.args.map Arg.text) ++ ")"

/-- The constructors behind the first, each on its line. -/
def Constructor.restText (cs : List Constructor) : Text :=
  cs.flatMap fun c => "  | " ++ c.text ++ "\n"

/-- A data type as it is written. -/
def DataType.text (d : DataType) : Text :=
  let params : Text := if d.params.isEmpty then [] else "<" ++ Text.join ", " d.params ++ ">"
  let body : Text :=
    match d.constructors with
    | [] => []
    | c :: cs => "    " ++ c.text ++ "\n" ++ Constructor.restText cs
  d.name ++ params ++ " =\n" ++ body

/-- A document as it is written. -/
def Doc.text (doc : Doc) : Text :=
  let package : Text := if doc.package.isEmpty then [] else "package " ++ doc.package ++ "\n\n"
  let imports : Text :=
    if doc.imports.isEmpty then []
    else (doc.imports.flatMap fun i => ("import " ++ i ++ "\n" : Text)) ++ "\n"
  package ++ imports ++ doc.types.flatMap DataType.text

/-- The printed document, if it can be printed. -/
def Doc.text? (doc : Doc) : Option Text := doc.written? Doc.text

end AdtCompiler
