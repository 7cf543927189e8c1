import AdtCompiler.Text.Basic

/-!
# Errors of the file system

An error names the operation that failed, the path or paths it was given, and the cause.
-/

namespace AdtCompiler

/-- Why the file system refuses an operation. -/
inductive FileCause where
  | notFound
  | notDirectory
  | isDirectory
  | alreadyExists
  | alreadyClosed
  | notEmpty
  | nameTooLong
  | invalidArgument
  /-- A name pattern for a new file that holds a slash. -/
  | slashInPattern
  /-- A cause that has no name here. -/
  | other (text : Text)
deriving Repr, DecidableEq

/-- The text of a cause. -/
def FileCause.text : FileCause → Text
  | .notFound => "no such file or directory"
  | .notDirectory => "not a directory"
  | .isDirectory => "is a directory"
  | .alreadyExists => "file exists"
  | .alreadyClosed => "file already closed"
  | .notEmpty => "directory not empty"
  | .nameTooLong => "file name too long"
  | .invalidArgument => "invalid argument"
  | .slashInPattern => "pattern contains path separator"
  | .other text => text

/-- An operation of the file system. -/
inductive FileOperation where
  | stat
  | opening
  | reading
  | writing
  | closing
  | makeDir
  | renaming
  | removing
  | removeTree
  | changeDir
  | createTemp
deriving Repr, DecidableEq

/-- The name of an operation. -/
def FileOperation.name : FileOperation → Text
  | .stat => "stat"
  | .opening => "open"
  | .reading => "read"
  | .writing => "write"
  | .closing => "close"
  | .makeDir => "mkdir"
  | .renaming => "rename"
  | .removing => "remove"
  | .removeTree => "RemoveAll"
  | .changeDir => "chdir"
  | .createTemp => "createtemp"

/-- A refused operation. -/
structure FileError where
  operation : FileOperation
  paths : List Text
  cause : FileCause
deriving Repr, DecidableEq

/-- The message of the error. -/
def FileError.message (e : FileError) : Text :=
  Text.join " " (e.operation.name :: e.paths) ++ ": " ++ e.cause.text

end AdtCompiler
