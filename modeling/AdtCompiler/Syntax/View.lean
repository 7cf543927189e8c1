import AdtCompiler.Format.Json
import AdtCompiler.Format.Yaml
import AdtCompiler.Syntax.Doc

/-!
# Documents as data

A document as JSON and as YAML, for tools that read its structure. Empty parts are left out
where the structure does not need them. Both forms require that all types are given.
-/

namespace AdtCompiler

namespace Arg

/-- An argument as JSON. -/
def toJson (a : Arg) : Format.Json := .obj [("name", .str a.name), ("type", .str a.type.text)]

/-- An argument as YAML. -/
def toYaml (a : Arg) : Format.Yaml := .map [("name", .str a.name), ("type", .str a.type.text)]

end Arg

namespace Constructor

/-- A constructor as JSON. -/
def toJson (c : Constructor) : Format.Json :=
  .obj (("name", .str c.name) ::
    if c.args.isEmpty then [] else [("fields", .arr (c.args.map Arg.toJson))])

/-- A constructor as YAML. -/
def toYaml (c : Constructor) : Format.Yaml :=
  .map (("name", .str c.name) ::
    if c.args.isEmpty then [] else [("fields", .seq (c.args.map Arg.toYaml))])

end Constructor

namespace DataType

/-- How the data type is laid out: one constructor makes a record. -/
def strategy (d : DataType) : Text := if d.isRecord then "record" else "variant"

/-- A data type as JSON. -/
def toJson (d : DataType) : Format.Json :=
  .obj ([("name", .str d.name)] ++
    (if d.params.isEmpty then [] else [("type_params", .arr (d.params.map .str))]) ++
    [("strategy", .str d.strategy), ("constructors", .arr (d.constructors.map Constructor.toJson))])

/-- A data type as YAML. -/
def toYaml (d : DataType) : Format.Yaml :=
  .map ([("name", .str d.name)] ++
    (if d.params.isEmpty then [] else [("type_params", .seq (d.params.map .str))]) ++
    [("strategy", .str d.strategy), ("constructors", .seq (d.constructors.map Constructor.toYaml))])

end DataType

namespace Doc

/-- The document as JSON. -/
def json (doc : Doc) : Text :=
  (Format.Json.obj ([("source", .str doc.source)] ++
    (if doc.package.isEmpty then [] else [("package", .str doc.package)]) ++
    [("imports", .arr (doc.imports.map .str)),
      ("data_types", .arr (doc.types.map DataType.toJson))])).text

/-- The document as YAML. -/
def yaml (doc : Doc) : Text :=
  Format.Yaml.text ([("source", .str doc.source)] ++
    (if doc.package.isEmpty then [] else [("package", .str doc.package)]) ++
    [("imports", .seq (doc.imports.map .str)),
      ("data_types", .seq (doc.types.map DataType.toYaml))])

end Doc

end AdtCompiler
