import AdtCompiler.Backend.GoUnit
import AdtCompiler.Check.Names

/-!
# Names that clash in Go

Data types, constructors and the functions generated for them share the package, the fields of
a struct share it with its methods, and the generated code refers to a package and a function
that a declaration must not hide.
-/

namespace AdtCompiler.Go

/-- The names that generated code refers to, with what they mean there. -/
def referenced : List (Text × Text) :=
  [("fmt", "the fmt package imported by generated code"),
    ("panic", "the builtin panic called by generated code")]

/-- The types of a document at package level: its data types, and the constructors of those that
are not records. -/
def typeNames (doc : Doc) : List Text :=
  doc.types.flatMap fun d =>
    d.name :: if d.isRecord then [] else d.constructors.map (·.name)

/-- A clash of a declared name with a generated one. -/
def clash (scope name counterpart : Text) : Finding := ⟨.generatedClash, scope, name, counterpart⟩

/-- The clash of a name with one that generated code refers to. -/
def referenceFindings (scope name : Text) : List Finding :=
  match referenced.lookup name with
  | some meaning => [clash scope name meaning]
  | none => []

/-- The fields of a constructor that clash with the printing method, or with the closest field
before them that has the same exported name and another declared one. `seen` holds the fields
before, the closest first. -/
def fieldClashesAfter (scope : Text) (seen : List (Text × Text)) : List Text → List Finding
  | [] => []
  | name :: rest =>
    let field := exported name
    (if field = ("String" : Text) then [clash scope name "the generated String method"] else []) ++
      (match seen.lookup field with
        | some earlier =>
          if earlier = name then []
          else [clash scope name ("field " ++ earlier ++ ", both generate the Go field " ++ field)]
        | none => []) ++
      fieldClashesAfter scope ((field, name) :: seen) rest

/-- The fields of a constructor that clash. -/
def fieldClashes (c : Constructor) : List Finding := fieldClashesAfter c.name [] c.fieldNames

/-- The clashes of a constructor, given the types at package level. -/
def constructorClashes (types : List Text) (d : DataType) (c : Constructor) : List Finding :=
  (if d.isRecord then [] else referenceFindings "" c.name) ++
    (if types.contains (builderName c.name) then
      [clash "" (builderName c.name) ("the function generated to build " ++ c.name)] else []) ++
    fieldClashes c

/-- The clashes of a data type, given the types at package level. -/
def typeClashes (types : List Text) (d : DataType) : List Finding :=
  referenceFindings "" d.name ++ d.params.flatMap (referenceFindings d.name) ++
    (if !d.isRecord && types.contains (matchName d.name) then
      [clash "" (matchName d.name) ("the function generated to match " ++ d.name)] else []) ++
    d.constructors.flatMap (constructorClashes types d)

/-- The names of a document that clash once they are rendered. -/
def nameRule : CheckRule := fun doc => doc.types.flatMap (typeClashes (typeNames doc))

end AdtCompiler.Go
