import AdtCompiler.Host.Basic

/-!
# The real system as a host

Runs the operations of a host on the files, the environment and the streams of the process.
Whether a path is a directory is seen when a byte is read from it. Directories are not listed
here, so that sources are named one by one.
-/

namespace AdtCompiler

/-- What the host keeps of the process: open files and how the log is written. -/
structure SystemState where
  opened : List (Nat × IO.FS.Handle) := []
  next : Nat := 1
  logMode : Option LogMode := none

/-- Computations in the process. -/
abbrev SystemM := StateT SystemState IO

namespace SystemM

/-- A text as a string; bytes that are not UTF-8 are lost. -/
def string (t : Text) : String := (String.fromUTF8? ⟨t.toArray⟩).getD ""

/-- The bytes of a text. -/
def bytes (t : Text) : ByteArray := ⟨t.toArray⟩

/-- The number of an error of the system, and its text. -/
def describe : IO.Error → UInt32 × String
  | .alreadyExists _ n s | .otherError n s | .resourceBusy n s | .resourceVanished n s
  | .unsupportedOperation n s | .hardwareFault n s | .unsatisfiedConstraints n s
  | .illegalOperation n s | .protocolError n s | .timeExpired n s | .interrupted _ n s
  | .noFileOrDirectory _ n s | .invalidArgument _ n s | .permissionDenied _ n s
  | .resourceExhausted _ n s | .inappropriateType _ n s | .noSuchThing _ n s => (n, s)
  | .unexpectedEof => (0, "unexpected end of file")
  | .userError s => (0, s)

/-- The cause that an error of the system stands for. -/
def cause (e : IO.Error) : FileCause :=
  let (number, text) := describe e
  match number.toNat with
  | 2 => .notFound
  | 17 => .alreadyExists
  | 20 => .notDirectory
  | 21 => .isDirectory
  | 22 => .invalidArgument
  | 36 => .nameTooLong
  | 39 => .notEmpty
  | _ => .other (Text.ofString text)

/-- Runs an operation on paths, and catches its error. -/
def attempt (operation : FileOperation) (paths : List Text) (work : IO α) :
    SystemM (Except FileError α) := do
  match ← work.toBaseIO with
  | .ok a => return .ok a
  | .error e => return .error ⟨operation, paths, cause e⟩

/-- What a path names. -/
def statusOf (path : Text) : SystemM (Except FileError FileKind) := do
  let first : IO ByteArray := do (← IO.FS.Handle.mk (string path) .read).read 1
  match ← attempt .stat [path] first with
  | .ok _ => return .ok .regular
  | .error e => return if e.cause = .isDirectory then .ok .directory else .error e

/-- The content of a file. -/
def contentOf (path : Text) : SystemM (Except FileError Text) := do
  match ← attempt .opening [path] (IO.FS.Handle.mk (string path) .read) with
  | .error e => return .error e
  | .ok h =>
    match ← attempt .reading [path] h.readBinToEnd with
    | .error e => return .error e
    | .ok content => return .ok content.toList

/-- Opens a new file under a name that holds the time. -/
def newFile (dir start ending : Text) : SystemM (Except FileError Handle) := do
  let name := start ++ Text.decimal (← IO.monoNanosNow) ++ ending
  let path := dir ++ [Path.slash] ++ name
  match ← attempt .opening [path] (IO.FS.Handle.mk (string path) .writeNew) with
  | .error e => return .error e
  | .ok h =>
    let id := (← get).next
    modify fun s => { s with opened := (id, h) :: s.opened, next := id + 1 }
    return .ok ⟨id, path⟩

/-- Writes to an open file. -/
def write (handle : Handle) (text : Text) : SystemM (Except FileError Unit) := do
  match (← get).opened.lookup handle.id with
  | none => return .error ⟨.writing, [handle.name], .alreadyClosed⟩
  | some h => attempt .writing [handle.name] (h.write (bytes text))

/-- Closes an open file: what it holds is written out, and nothing refers to it any more. -/
def shut (handle : Handle) : SystemM (Except FileError Unit) := do
  match (← get).opened.lookup handle.id with
  | none => return .error ⟨.closing, [handle.name], .alreadyClosed⟩
  | some h =>
    modify fun s => { s with opened := s.opened.filter (·.1 != handle.id) }
    attempt .closing [handle.name] h.flush

/-- Prints to a stream. -/
def put (stream : IO.FS.Stream) (text : Text) : SystemM Unit := do
  stream.write (bytes text)
  stream.flush

instance : Host SystemM where
  status := statusOf
  load := contentOf
  save path text := attempt .opening [path] (IO.FS.writeBinFile (string path) (bytes text))
  makeDir path := attempt .makeDir [path] (IO.FS.createDir (string path))
  entries path := return .error ⟨.opening, [path], .other "directories are not listed"⟩
  createTemp := newFile
  append := write
  close := shut
  rename old new := attempt .renaming [old, new] (IO.FS.rename (string old) (string new))
  remove path := attempt .removing [path] (IO.FS.removeFile (string path))
  removeTree path := attempt .removeTree [path] (IO.FS.removeDirAll (string path))
  workingDir := do return Text.ofString (toString (← IO.currentDir))
  environment name := do return Text.ofString ((← IO.getEnv (string name)).getD "")
  clock := IO.monoNanosNow
  timeStamp := do return Text.decimal (← IO.monoNanosNow)
  startLog mode := modify fun s => { s with logMode := some mode }
  log entry := do
    if let some mode := (← get).logMode then
      if mode.keeps entry then put (← IO.getStderr) (entry.written mode)
  print text := do put (← IO.getStdout) text
  printError text := do put (← IO.getStderr) text
  printsToTerminal := do (← IO.getStdout).isTty
  printsErrorsToTerminal := do (← IO.getStderr).isTty

end SystemM

end AdtCompiler
