import AdtCompiler.Backend.GoDecl
import AdtCompiler.Layout.HeadText

/-!
# Go units

The unit of a data type: the header of its document, the import of the formatting package where
it is needed, and the declarations. A unit whose text could not be read as Go does not exist.
-/

namespace AdtCompiler.Go

/-- The package of documents that declare none, where no other is asked for. -/
def defaultPackage : Text := "adt"

/-- The package of a document: the last part of the declared one, or the one given. -/
def packageName (given : Text) (doc : Doc) : Text :=
  if doc.package.isEmpty then if given.isEmpty then defaultPackage else given
  else (Text.splitOn (Text.byte '.') doc.package).getLast?.getD []

/-- The text in front of every unit of a document: a line that marks generated code, the
package, and a comment that holds the provenance. -/
def header (given : Text) (doc : Doc) (version provenance : Text) : Text :=
  "// Code generated by adtc " ++ version ++ " from " ++ doc.source ++ ". DO NOT EDIT.\n\n" ++
    "package " ++ packageName given doc ++ "\n\n" ++
    "/*\n" ++ provenance ++ "\n*/\n"

/-- The unit of a data type behind a header. What stands before the first declaration is laid out
anew; the declarations are in their layout already. -/
def unit? (doc : Doc) (d : DataType) (header : Text) : Option Text := do
  let records := recordNames doc
  if !isReadable records d then none
  let (before, behind) ← Text.cut? "\ntype" (decls records d)
  let imports := Text.when (needsFormatting d) "\nimport \"fmt\"\n"
  let head ← Layout.layOutHead? (header ++ imports ++ before ++ "\ntype")
  return head ++ behind

end AdtCompiler.Go
