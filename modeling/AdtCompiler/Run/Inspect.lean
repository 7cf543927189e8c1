import AdtCompiler.Check.Names
import AdtCompiler.Host.Basic
import AdtCompiler.Run.Locate
import AdtCompiler.Run.Options

/-!
# Looking at a source

Loading a source and splitting it into tokens, reading it as a document, or checking it,
without generating anything.
-/

namespace AdtCompiler

/-- A file set with the bytes of one more source, and the file that stands for it. -/
def FileSet.loaded (files : FileSet) (path bytes : Text) : FileSet × SourceFile :=
  let (files, id) := files.addLoaded path bytes
  (files, (files.get? id).getD default)

/-- Loads a source into a file set. -/
def FileSet.load [Host m] (files : FileSet) (path : Text) :
    m (Except FileError (FileSet × SourceFile)) := do
  match ← Host.load path with
  | .error e => return .error e
  | .ok bytes => return .ok (files.loaded path bytes)

namespace Session

/-- A bag for the diagnostics of a run, unless the limit asks for more than there is room for. -/
def newBag (s : Session) : Except Failure Bag :=
  match Bag.create? s.options.diagnosticLimit with
  | some bag => .ok bag
  | none => .error (.ofCause .impossible)

/-- Reads a file as a document; an error goes into the bag. A file that is too long ends the
run. -/
def parse (s : Session) (file : SourceFile) (bag : Bag) : Except Failure (Option Doc × Bag) :=
  match file.parse s.backend.wordTable with
  | .ok doc => .ok (some doc, bag)
  | .error (.misfit e) => .ok (none, (bag.add e.diagnostic).1)
  | .error .tooLong => .error (.ofCause .impossible)

/-- Whether a document has no clashes; each of them goes into the bag. -/
def check (s : Session) (file : SourceFile) (doc : Doc) (bag : Bag) : Bool × Bag :=
  let found := doc.check s.backend.rules
  if found.isEmpty then (true, bag)
  else (false, bag.addMany (found.diagnostics file s.backend.wordTable))

end Session

/-- What is known about a source after looking at it. -/
structure Inspection where
  files : FileSet
  file : SourceFile
  bag : Bag
  /-- The document, unless the source has a syntax error. -/
  doc : Option Doc := none
  tokens : List Token := []

/-- Starts a session, loads a source and looks at it. -/
def Options.inspect [Host m] (o : Options) (path : Text)
    (look : Session → Inspection → Except Failure Inspection) : m (Except Failure Inspection) := do
  match Session.start o with
  | .error e => return .error e
  | .ok session =>
    match ← ({} : FileSet).load path with
    | .error e => return .error (.ofFile (.loading path) e)
    | .ok (files, file) => return session.newBag.bind fun bag => look session { files, file, bag }

/-- Splits a source into tokens. What is no token is reported as a warning. -/
def Session.lookAtTokens (s : Session) (i : Inspection) : Except Failure Inspection :=
  match i.file.tokens? s.backend.wordTable with
  | none => .error (.ofCause .impossible)
  | some (tokens, last) =>
    let unknown := tokens.filter (·.kind == .unknown)
    .ok { i with
      bag := i.bag.addMany (unknown.map Token.unknownDiagnostic)
      tokens := tokens ++ [last] }

/-- Reads a source as a document. -/
def Session.lookAtDoc (s : Session) (i : Inspection) : Except Failure Inspection := do
  let (doc, bag) ← s.parse i.file i.bag
  return { i with doc, bag }

/-- Reads a source as a document, and checks its names. -/
def Session.lookAtNames (s : Session) (i : Inspection) : Except Failure Inspection := do
  let i ← s.lookAtDoc i
  match i.doc with
  | none => return i
  | some doc => return { i with bag := (s.check i.file doc i.bag).2 }

/-- Splits the source at a path into tokens. -/
def Options.tokenize [Host m] (o : Options) (path : Text) : m (Except Failure Inspection) :=
  o.inspect path Session.lookAtTokens

/-- Reads the source at a path as a document. -/
def Options.parse [Host m] (o : Options) (path : Text) : m (Except Failure Inspection) :=
  o.inspect path Session.lookAtDoc

/-- Reads the source at a path as a document, and checks its names. -/
def Options.check [Host m] (o : Options) (path : Text) : m (Except Failure Inspection) :=
  o.inspect path Session.lookAtNames

end AdtCompiler
