import AdtCompiler.Host.Basic

/-!
# Directories

Making a directory with all those above it, and listing the files below a directory.
-/

namespace AdtCompiler

/-- An absolute path; one that is relative starts at the working directory. -/
def absolutePath [Host m] (path : Text) : m Text := do
  if Path.isAbsolute path then return Path.clean path
  return Path.join [← Host.workingDir, path]

/-- The path of the directory above, without a slash at its end. It is empty for a path of one
name, and for names at the root. -/
def dirAbove (path : Text) : Text :=
  let bare := path.reverse.dropWhile (· == Path.slash)
  ((bare.dropWhile (· != Path.slash)).drop 1).reverse

/-- Makes a directory below one that exists. One that is there already is no failure. -/
def makeDirBelow [Host m] (path : Text) : m (Except FileError Unit) := do
  match ← Host.makeDir path with
  | .ok () => return .ok ()
  | .error e =>
    match ← Host.status path with
    | .ok .directory => return .ok ()
    | _ => return .error e

/-- Makes a directory and those above it, in at most as many levels as the fuel allows. -/
def makeDirsWithin [Host m] : (fuel : Nat) → Text → m (Except FileError Unit)
  | 0, path => return .error ⟨.makeDir, [path], .notFound⟩
  | fuel + 1, path => do
    match ← Host.status path with
    | .ok .directory => return .ok ()
    | .ok .regular => return .error ⟨.makeDir, [path], .notDirectory⟩
    | .error _ =>
      let above := dirAbove path
      if above.isEmpty then makeDirBelow path
      else
        match ← makeDirsWithin fuel above with
        | .error e => return .error e
        | .ok () => makeDirBelow path

/-- Makes a directory and those above it. Every level is a shorter path, so the length of the
path is fuel enough. -/
def makeDirs [Host m] (path : Text) : m (Except FileError Unit) :=
  makeDirsWithin (path.length + 1) path

/-- The files below a directory, in at most as many levels as the fuel allows. -/
def filesWithin [Host m] : (fuel : Nat) → Text → m (Except FileError (List Text))
  | 0, _ => return .ok []
  | fuel + 1, dir => do
    match ← Host.entries dir with
    | .error e => return .error e
    | .ok names =>
      names.foldlM
        (fun found (name, kind) => do
          match found with
          | .error e => return .error e
          | .ok found =>
            let path := Path.join [dir, name]
            match kind with
            | .regular => return .ok (found ++ [path])
            | .directory =>
              match ← filesWithin fuel path with
              | .error e => return .error e
              | .ok more => return .ok (found ++ more))
        (.ok [])

/-- The longest path that a file can have. -/
def maxPath : Nat := 4096

/-- The files below a directory. -/
def filesBelow [Host m] (dir : Text) : m (Except FileError (List Text)) := filesWithin maxPath dir

end AdtCompiler
