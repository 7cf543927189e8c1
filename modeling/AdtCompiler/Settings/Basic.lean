import AdtCompiler.Format.Toml.Document
import AdtCompiler.Host.Failure
import AdtCompiler.SemVer.Requirement

/-!
# Settings

The settings of a project, which a file in its directory may give: which versions of the
compiler it works with, which back end is used and how sources and generated files are named.
-/

namespace AdtCompiler

/-- The settings of a project. -/
structure Settings where
  /-- The requirement on the version of the compiler; empty if there is none. -/
  requires : Text := []
  backend : Text := "java"
  cache : Bool := false
  extension : Text := ".adt"
  goPackage : Text := "adt"
deriving Repr, DecidableEq

namespace Settings

/-- The name of the file. -/
def fileName : Text := "adtc.toml"

open Format

/-! ## Reading -/

/-- A character with others that differ only in case mapped to the same one, as far as they can
occur in names of settings. -/
def foldCode (c : Nat) : Nat :=
  if 65 ≤ c ∧ c ≤ 90 then c + 32
  else if c = 0x17F then 0x73
  else if c = 0x212A then 0x6B
  else c

/-- Whether a key spells a name, in whatever case. -/
def spells (key name : Text) : Bool := key.runes.map (foldCode ·.code) == name.runes.map (·.code)

/-- Settings with the keys that had a meaning. -/
abbrev Understood := Settings × List Toml.Key

/-- Reads a member of the table for the generator. -/
def readGenerate (area : Text) (u : Understood) (member : Text × Toml.Value) :
    Option Understood :=
  let (name, value) := member
  let known := u.2 ++ [[area, name]]
  if spells name "backend" then
    match value with
    | .string backend => some ({ u.1 with backend }, known)
    | _ => none
  else if spells name "cache" then
    match value with
    | .boolean cache => some ({ u.1 with cache }, known)
    | _ => none
  else if spells name "extension" then
    match value with
    | .string extension => some ({ u.1 with extension }, known)
    | _ => none
  else some u

/-- Reads a member of the table for the Go back end. -/
def readGo (area : Text) (u : Understood) (member : Text × Toml.Value) : Option Understood :=
  let (name, value) := member
  if spells name "package" then
    match value with
    | .string goPackage => some ({ u.1 with goPackage }, u.2 ++ [[area, name]])
    | _ => none
  else some u

/-- Reads a member of the outermost table. -/
def readMember (u : Understood) (member : Text × Toml.Value) : Option Understood :=
  let (name, value) := member
  let known := u.2 ++ [[name]]
  if spells name "requires" then
    match value with
    | .string requires => some ({ u.1 with requires }, known)
    | _ => none
  else if spells name "generate" then
    match value with
    | .table members => members.foldlM (readGenerate name) (u.1, known)
    | _ => none
  else if spells name "go" then
    match value with
    | .table members => members.foldlM (readGo name) (u.1, known)
    | _ => none
  else some u

/-- Reads settings over the defaults; fails if a value is not of the expected kind. -/
def ofDocument? (d : Toml.Document) : Option Understood := d.root.foldlM readMember ({}, [])

/-- The advice for keys without a meaning. -/
def unknownKeysHint : Text :=
  "supported keys are requires, [generate] backend, cache, extension and [go] package"

/-- Reads the content of a file; all its keys must have a meaning. -/
def read (path content : Text) : Except Failure Settings :=
  match (Toml.read? content).bind fun d => (ofDocument? d).map (d, ·) with
  | none => .error ((Failure.ofCause .malformedSettings).during (.parsingSettings path))
  | some (d, settings, known) =>
    let unknown := d.keys.filter (!known.contains ·)
    if !unknown.isEmpty then
      .error (.say (path ++ ": unknown keys: " ++ Text.join ", " (unknown.map Toml.keyText))
        [unknownKeysHint])
    else if settings.extension.head? ≠ some (Text.byte '.') then
      .error (.say (path ++ ": generate.extension " ++ settings.extension.quoted ++
        " must start with a dot") [])
    else .ok settings

/-! ## Writing -/

/-- A line with a setting. -/
def line (name value : Text) : Text := "  " ++ name ++ " = " ++ value ++ "\n"

/-- The settings as the content of a file. -/
def text (s : Settings) : Text :=
  Text.when (!s.requires.isEmpty) ("requires = " ++ Toml.quoted s.requires ++ "\n\n") ++
    "[generate]\n" ++ line "backend" (Toml.quoted s.backend) ++
    line "cache" (if s.cache then "true" else "false") ++
    line "extension" (Toml.quoted s.extension) ++ "\n[go]\n" ++
    line "package" (Toml.quoted s.goPackage)

/-! ## The required version -/

/-- Why a version of the compiler does not suit the settings, if it does not. -/
def versionFailure? (s : Settings) (version : Text) : Option Failure :=
  if s.requires.isEmpty then none
  else
    match SemVer.read version with
    | .error e => some ((Failure.say e.message []).during (.readingVersion version))
    | .ok v =>
      match VersionRequirement.read s.requires with
      | .error e => some ((Failure.say e.message []).during (.readingConstraint s.requires))
      | .ok requirement =>
        if requirement.accepts v then none
        else
          some (.say ("configuration requires adtc " ++ s.requires ++ ", but running " ++ version)
            ["install a matching adtc or relax 'requires' in " ++ fileName])

end Settings

end AdtCompiler
