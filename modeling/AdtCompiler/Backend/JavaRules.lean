import AdtCompiler.Backend.JavaUnit
import AdtCompiler.Check.Names

/-!
# Names that clash in Java

The class of a variant type nests the visitors beside the classes of its constructors, so none
of the names in it may be that of a visitor.
-/

namespace AdtCompiler.Java

/-- The names bound in the class of a data type. -/
def boundNames (d : DataType) : List Text := d.name :: d.params ++ d.constructors.map (·.name)

/-- The names of a variant type that a visitor has as well. -/
def typeFindings (d : DataType) : List Finding :=
  if d.isRecord then []
  else
    ((boundNames d).filter visitorNames.contains).map fun name =>
      ⟨.generatedClash, d.name, name, "the generated " ++ name ++ " type"⟩

/-- The names of a document that clash with visitors. -/
def nameRule : CheckRule := fun doc => doc.types.flatMap typeFindings

end AdtCompiler.Java
