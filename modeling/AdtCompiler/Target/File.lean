import AdtCompiler.Host.Directory
import AdtCompiler.Target.Basic

/-!
# Targets in files

A unit is written to a new file beside its final path and renamed over that path when it is
closed, so that the final file always holds a whole unit. The unit `a.b.C` belongs in the file
`C` of the directory `a/b` below the destination.
-/

namespace AdtCompiler

/-- A target in a file: its final path, the file it is written to, whether it was released, and
the first failure to write. -/
structure FileTarget where
  path : Text
  temp : Handle
  closed : Bool := false
  failure : Option Failure := none
deriving Repr, DecidableEq

/-- Where files go: a directory, and the extension of their names. -/
structure FileUnits where
  dir : Text
  extension : Text
deriving Repr, DecidableEq

namespace FileUnits

/-- The file of a unit. -/
def pathFor (f : FileUnits) (name : Text) : Text :=
  Path.join [f.dir, name.map fun b => if b = Text.byte '.' then Path.slash else b] ++ f.extension

/-- Opens a new file beside the final path of a unit. -/
def create [Host m] (f : FileUnits) (name : Text) : m (Except Failure FileTarget) := do
  let path := f.pathFor name
  match ← makeDirs (Path.parent path) with
  | .error e => return .error (.ofFile (.creatingDirectoryFor name) e)
  | .ok () =>
    match ← Host.createTemp (Path.parent path) ("." ++ Path.base path ++ ".tmp-") [] with
    | .error e => return .error (.ofFile (.creatingTargetFor name) e)
    | .ok temp => return .ok { path, temp }

end FileUnits

namespace FileTarget

/-- The destination of a target, for the log. -/
def info (t : FileTarget) : Text := "File: " ++ t.path

/-- Writes to a target, and remembers the first failure. -/
def write [Host m] (t : FileTarget) (text : Text) : m (Option Failure × FileTarget) := do
  match ← Host.append t.temp text with
  | .ok () => return (none, t)
  | .error e =>
    let failure := t.failure <|> some (.ofFile (.writing t.path) e)
    return (some (.ofCause (.file e)), { t with failure })

/-- Releases a target without publishing anything. A file that is gone already is no failure. -/
def abort [Host m] (t : FileTarget) : m (Option Failure × FileTarget) := do
  if t.closed then return (none, t)
  let t := { t with closed := true }
  let closed ← Host.close t.temp
  match ← Host.remove t.temp.name, closed with
  | .ok (), .ok () => return (none, t)
  | .ok (), .error e => return (some (.ofFile (.discarding t.path) e), t)
  | .error e, closed =>
    if e.cause = .notFound then
      match closed with
      | .ok () => return (none, t)
      | .error e => return (some (.ofFile (.discarding t.path) e), t)
    else return (some (.ofFile (.discarding t.path) e), t)

/-- Publishes the unit of a target. One that failed to write is discarded instead. -/
def close [Host m] (t : FileTarget) : m (Option Failure × FileTarget) := do
  if t.closed then return (none, t)
  match t.failure with
  | some failure =>
    let (_, t) ← t.abort
    return (some failure, t)
  | none =>
    let t := { t with closed := true }
    match ← Host.close t.temp with
    | .error e =>
      let _ ← Host.remove t.temp.name
      return (some (.ofFile (.closing t.path) e), t)
    | .ok () =>
      match ← Host.rename t.temp.name t.path with
      | .error e =>
        let _ ← Host.remove t.temp.name
        return (some (.ofFile (.publishing t.path) e), t)
      | .ok () => return (none, t)

end FileTarget

/-- The factory that writes units to files. -/
def FileUnits.factory [Host m] (f : FileUnits) : TargetFactory m where
  Target := FileTarget
  create := f.create
  info := FileTarget.info
  write := FileTarget.write
  close := FileTarget.close
  abort? t := some t.abort

end AdtCompiler
