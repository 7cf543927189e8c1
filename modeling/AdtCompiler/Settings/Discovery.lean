import AdtCompiler.Host.Directory
import AdtCompiler.Settings.Basic

/-!
# Finding settings

The file of settings is the nearest one in a directory or above it, unless it is named.
-/

namespace AdtCompiler

namespace Settings

/-- The nearest file of settings in a directory or above it, in at most as many levels as the
fuel allows. -/
def findWithin [Host m] : (fuel : Nat) → (dir : Text) → m (Except Failure (Option Text))
  | 0, _ => return .ok none
  | fuel + 1, dir => do
    let candidate := Path.join [dir, fileName]
    match ← Host.status candidate with
    | .ok _ => return .ok (some candidate)
    | .error e =>
      if e.cause ≠ .notFound then return .error (.ofFile (.looking candidate) e)
      let above := Path.parent dir
      if above = dir then return .ok none else findWithin fuel above

/-- The nearest file of settings, from a directory upwards. Every level up is a shorter path. -/
def find [Host m] (start : Text) : m (Except Failure (Option Text)) := do
  let dir ← absolutePath (if start.isEmpty then "." else start)
  findWithin (dir.length + 1) dir

/-- Loads settings from a file. -/
def load [Host m] (path : Text) : m (Except Failure Settings) := do
  match ← Host.load path with
  | .error e => return .error (.ofFile (.parsingSettings path) e)
  | .ok content => return read path content

/-- Loads the named file of settings, or else the nearest one, or else takes the defaults. Tells
which file was loaded. -/
def discover [Host m] (named start : Text) : m (Except Failure (Settings × Option Text)) := do
  let path ← if named.isEmpty then find start else pure (.ok (some named))
  match path with
  | .error e => return .error e
  | .ok none => return .ok ({}, none)
  | .ok (some path) =>
    match ← load path with
    | .error e => return .error e
    | .ok settings => return .ok (settings, some path)

end Settings

end AdtCompiler
