import AdtCompiler.Diagnostic.Colour
import AdtCompiler.Format.Json
import AdtCompiler.Text.Blank

/-!
# The version of the compiler

The version is written into every generated unit. It can be shown with the commit and the date
of the build, for readers and as JSON.
-/

namespace AdtCompiler

/-- What is known about a build. -/
structure BuildInfo where
  version : Text
  commit : Text
  date : Text
deriving Repr, DecidableEq

namespace BuildInfo

/-- This build. -/
def current : BuildInfo := ⟨"0.1.0", "", ""⟩

/-- The information without blanks around it; a build without a version is one under way. -/
def clean (b : BuildInfo) : BuildInfo :=
  let version := b.version.trim
  ⟨if version.isEmpty then "dev" else version, b.commit.trim, b.date.trim⟩

/-- The styles of the parts of a version. -/
def partStyles : List TextStyle := [[.yellow, .bold], [.green, .bold], [.blue, .bold]]

/-- The parts of a version between its first two points; the third part holds the rest. -/
def parts (version : Text) : List Text :=
  match Text.splitOn (Text.byte '.') version with
  | a :: b :: c :: rest => [a, b, Text.join "." (c :: rest)]
  | few => few

/-- A version with a colour for each part. -/
def coloured (colours : Bool) (version : Text) : Text :=
  Text.join "." (partStyles.zipWith (fun style part => style.paint colours part) (parts version))

/-- The text, or a word for what is not known. -/
def orUnknown (t : Text) : Text := if t.isEmpty then "unknown" else t

/-- The build for readers. -/
def pretty (b : BuildInfo) (colours full : Bool) : Text :=
  "adtc " ++ coloured colours b.version ++ "\n" ++
    Text.when full
      ("commit: " ++ orUnknown b.commit ++ "\n" ++ "built:  " ++ orUnknown b.date ++ "\n")

/-- The build as JSON. -/
def json (b : BuildInfo) (full : Bool) : Text :=
  (Format.Json.obj ([("tool", .str "adtc"), ("version", .str b.version)] ++
    if full then
      [("git_commit", .str (orUnknown b.commit)), ("build_date", .str (orUnknown b.date))]
    else [])).text

end BuildInfo

end AdtCompiler
