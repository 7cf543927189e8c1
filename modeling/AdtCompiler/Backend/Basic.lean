import AdtCompiler.Backend.GoRules
import AdtCompiler.Backend.JavaRules
import AdtCompiler.Syntax.Printer
import AdtCompiler.Text.Quoted

/-!
# Back ends

A back end renders data types in one language. It names the words that declared names must not
use, the clashes with names it derives itself, the text in front of every unit and the text of
each unit.
-/

namespace AdtCompiler

/-- Why a unit is not complete. -/
inductive RenderError where
  /-- The generated text cannot be read as Go. -/
  | unreadable (dataType : Text)
  /-- The renderer gave up on a unit. -/
  | refused (unit : Text)
deriving Repr, DecidableEq

/-- The message of the error. -/
def RenderError.message : RenderError → Text
  | .unreadable dataType => "formatting generated Go for " ++ dataType
  | .refused unit => "cannot render " ++ unit

/-- How the rendering of a unit ends. -/
inductive RenderEnd where
  /-- The unit is complete. -/
  | complete
  /-- The unit is not complete. -/
  | failed (error : RenderError)
  /-- The renderer did not come back. -/
  | crashed
deriving Repr, DecidableEq

/-- The rendering of a unit: the pieces to write, and how it ends behind them. -/
structure Rendering where
  pieces : List Text
  ending : RenderEnd
deriving Repr, DecidableEq

/-- A renderer for one language. -/
structure Backend where
  name : Text
  /-- The extension of generated files, with its dot. -/
  extension : Text
  reservedWords : List Text
  rules : List CheckRule
  /-- The text in front of every unit of a document, from the version and the provenance. -/
  header : Doc → Text → Text → Text
  /-- The unit of a data type behind a header. -/
  render : Doc → DataType → Text → Rendering

namespace Backend

/-- The back end that renders Java classes. -/
def java : Backend where
  name := "java"
  extension := ".java"
  reservedWords := Java.reservedWords
  rules := [Java.nameRule]
  header := fun doc _ provenance => Java.header doc provenance
  render := fun _ d header => ⟨[header, Java.classText d], .complete⟩

/-- The back end that renders Go types; the package is for documents that declare none. -/
def go (package : Text) : Backend where
  name := "go"
  extension := ".go"
  reservedWords := Go.reservedWords
  rules := [Go.nameRule]
  header := Go.header package
  render := fun doc d header =>
    match Go.unit? doc d header with
    | some text => ⟨[text], .complete⟩
    | none => ⟨[], .failed (.unreadable d.name)⟩

/-- The names of all back ends, in order. -/
def names : List Text := ["go", "java"]

/-- The back end of a name. -/
def find? (goPackage name : Text) : Option Backend :=
  if name = ("java" : Text) then some java
  else if name = ("go" : Text) then some (go goPackage)
  else none

/-- The message for a name that no back end has. -/
def unknownMessage (name : Text) : Text := "unknown backend " ++ name.quoted

/-- The advice for a name that no back end has. -/
def unknownHint : Text := "available backends: " ++ Text.join ", " names

/-- The reserved words as a table for the reader. -/
def wordTable (b : Backend) : WordTable := ⟨b.reservedWords⟩

end Backend

/-- Where a generated unit comes from: the source, the version that read it, and the document as
it was read. -/
def Doc.provenance (doc : Doc) (version : Text) : Text :=
  "This file was generated based on " ++ doc.source ++ " using adtc version " ++ version ++
    ". Please do not modify directly.\n\n" ++
    "The source was parsed as: \n\n" ++ doc.text

/-- The provenance of a document, if the document can be printed. -/
def Doc.provenance? (doc : Doc) (version : Text) : Option Text :=
  doc.written? (·.provenance version)

end AdtCompiler
