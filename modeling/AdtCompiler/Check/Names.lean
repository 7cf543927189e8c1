import AdtCompiler.Check.Finding
import AdtCompiler.Syntax.Doc

/-!
# Checking a document

Data types and constructors share one namespace in a document, because each of them becomes a
generated type. The one exception is a record whose constructor is named like it, which becomes
a single type. Fields of a constructor, and type parameters of a data type, must be told apart
by name, and a type parameter must not hide the types it is used in.

A rule adds the clashes with names that a back end derives from the declared ones.
-/

namespace AdtCompiler

/-- Finds further clashes in a document. -/
abbrev CheckRule := Doc → List Finding

namespace Check

/-- The names that occur again behind an earlier occurrence, one entry for each repetition;
`seen` holds the names before. -/
def repeatsAfter (seen : List Text) : List Text → List Text
  | [] => []
  | name :: rest =>
    if seen.contains name then name :: repeatsAfter seen rest
    else repeatsAfter (name :: seen) rest

/-- The repetitions in a list of names. -/
def repeats (names : List Text) : List Text := repeatsAfter [] names

end Check

namespace Constructor

/-- The names of the fields, in order. -/
def fieldNames (c : Constructor) : List Text := c.args.map (·.name)

/-- The fields whose names are taken. -/
def fieldFindings (c : Constructor) : List Finding :=
  (Check.repeats c.fieldNames).map (⟨.duplicateField, c.name, ·, ""⟩)

end Constructor

namespace DataType

/-- The names that the data type adds to the document: its own, and those of its constructors
unless the data type is a record named like its constructor. -/
def declaredNames (d : DataType) : List Text :=
  d.name ::
    ((d.constructors.filter fun c => !(d.isRecord && c.name == d.name)).map (·.name))

/-- Whether a type parameter hides the data type or one of its constructors. -/
def isHiddenBy (d : DataType) (param : Text) : Bool :=
  param == d.name || d.constructors.any (param == ·.name)

/-- The type parameters that occur twice or hide a type. -/
def paramFindings (d : DataType) : List Finding :=
  (Check.repeats d.params).map (⟨.duplicateParam, d.name, ·, ""⟩) ++
    (d.params.filter d.isHiddenBy).map (⟨.shadowingParam, d.name, ·, ""⟩)

end DataType

namespace Doc

/-- All names that the document declares, in order. -/
def declaredNames (doc : Doc) : List Text := doc.types.flatMap DataType.declaredNames

/-- The clashes that every back end rejects. -/
def coreFindings (doc : Doc) : List Finding :=
  (Check.repeats doc.declaredNames).map (⟨.duplicateName, "", ·, ""⟩) ++
    doc.types.flatMap fun d =>
      d.paramFindings ++ d.constructors.flatMap Constructor.fieldFindings

/-- All clashes of the document, those of the rules included. -/
def check (doc : Doc) (rules : List CheckRule) : FindingSet :=
  .ofList (doc.coreFindings ++ rules.flatMap (· doc))

end Doc

end AdtCompiler
