import AdtCompiler.Backend.Basic
import AdtCompiler.Digest.Framed
import AdtCompiler.Host.Failure
import AdtCompiler.Version

/-!
# Options of a run

What a run is asked to do. An option that is left out has a default. A session is what all
documents of a run share: the options and the back end they select.
-/

namespace AdtCompiler

/-- The options of a run. -/
structure Options where
  backend : Text := []
  /-- The package for the Go back end. -/
  goPackage : Text := []
  /-- The extension of sources in directories. -/
  extension : Text := []
  cache : Bool := false
  /-- Whether all cache entries are dropped first. -/
  clearCache : Bool := false
  cacheDir : Text := []
  maxDiagnostics : Int := 0
  version : Text := []
deriving Repr, DecidableEq

namespace Options

/-- The name of the selected back end. -/
def backendName (o : Options) : Text := if o.backend.isEmpty then "java" else o.backend

/-- The extension of sources if none is given. -/
def defaultExtension : Text := ".adt"

/-- The extension of sources. -/
def sourceExtension (o : Options) : Text :=
  if o.extension.isEmpty then defaultExtension else o.extension

/-- The greatest number of diagnostics. -/
def diagnosticLimit (o : Options) : Int := if o.maxDiagnostics ≤ 0 then 100 else o.maxDiagnostics

/-- The version that is written into generated units. -/
def versionText (o : Options) : Text :=
  if o.version.isEmpty then BuildInfo.current.version else o.version

end Options

/-- What all documents of a run share. -/
structure Session where
  options : Options
  backend : Backend

namespace Session

/-- The session of options, if there is such a back end. -/
def start (options : Options) : Except Failure Session :=
  match Backend.find? options.goPackage options.backendName with
  | some backend => .ok ⟨options, backend⟩
  | none => .error (.ofCause (.unknownBackend options.backendName))

/-- What the key of a generation is made of: the digest of the source and everything that shapes
the generated text or says where it goes. -/
def keyParts (s : Session) (content destination : Text) : List Text :=
  [content, s.backend.name, s.options.versionText, s.options.goPackage, destination]

/-- The key of a generation. -/
def cacheKey (s : Session) (content destination : Text) : Text :=
  Digest.combine (s.keyParts content destination)

end Session

end AdtCompiler
