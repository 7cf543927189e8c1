import AdtCompiler.Backend.Basic
import AdtCompiler.Host.FileError

/-!
# Failures

Why a run of the compiler failed: a cause, and the activities that it interrupted, the outermost
first. Some failures come with advice.
-/

namespace AdtCompiler

/-- What the compiler was doing when it failed. -/
inductive Activity where
  | creatingDirectoryFor (unit : Text)
  | creatingTargetFor (unit : Text)
  | writing (path : Text)
  | closing (what : Text)
  | publishing (path : Text)
  | discarding (path : Text)
  | releasing (what : Text)
  | emitting (unit : Text)
  | generatingFrom (path : Text)
  | hashing (path : Text)
  | loading (path : Text)
  | collecting (path : Text)
  | walking (path : Text)
  | locatingCache
  | creatingCache (dir : Text)
  | creatingEntryDirectory
  | creatingEntry
  | writingEntry
  | openingEntry
  | decodingEntry
  | droppingCache
  | looking (path : Text)
  | parsingSettings (path : Text)
  | creating (path : Text)
  | checking (path : Text)
  | readingVersion (version : Text)
  | readingConstraint (constraint : Text)
  | profiling (what : Text)
deriving Repr, DecidableEq

/-- The text of an activity. -/
def Activity.text : Activity → Text
  | .creatingDirectoryFor unit => "creating directory for " ++ unit
  | .creatingTargetFor unit => "creating target for " ++ unit
  | .writing path => "writing " ++ path
  | .closing what => "closing " ++ what
  | .publishing path => "publishing " ++ path
  | .discarding path => "discarding " ++ path
  | .releasing what => "releasing " ++ what
  | .emitting unit => "emitting " ++ unit
  | .generatingFrom path => "generating from " ++ path
  | .hashing path => "hashing " ++ path
  | .loading path => "cannot load source " ++ path.quoted
  | .collecting path => "cannot read source " ++ path.quoted
  | .walking path => "cannot walk source directory " ++ path.quoted
  | .locatingCache => "locating cache directory"
  | .creatingCache dir => "creating cache directory " ++ dir.quoted
  | .creatingEntryDirectory => "creating cache entry directory"
  | .creatingEntry => "creating cache entry"
  | .writingEntry => "writing cache entry"
  | .openingEntry => "opening cache entry"
  | .decodingEntry => "decoding cache entry"
  | .droppingCache => "dropping cache"
  | .looking path => "stat " ++ path.quoted
  | .parsingSettings path => path ++ ": failed to parse TOML"
  | .creating path => "creating " ++ path
  | .checking path => "stat " ++ path
  | .readingVersion version => "invalid adtc version " ++ version
  | .readingConstraint constraint => "invalid version constraint " ++ constraint
  | .profiling what => "creating " ++ what

/-- What went wrong. -/
inductive FailureCause where
  /-- The file system refused an operation. -/
  | file (error : FileError)
  /-- A unit could not be rendered. -/
  | render (error : RenderError)
  /-- There is no back end of the name. -/
  | unknownBackend (name : Text)
  /-- Settings that are not TOML, or not of the expected types. -/
  | malformedSettings
  /-- A cache entry that is not one. -/
  | malformedEntry
  /-- Work that cannot be carried out at all, such as setting aside more room than there is. -/
  | impossible
  /-- Anything else that has a message of its own, with advice. -/
  | message (text : Text) (hints : List Text)
deriving Repr, DecidableEq

/-- A failure: its cause, and the interrupted activities, the outermost first. -/
structure Failure where
  activities : List Activity
  cause : FailureCause
deriving Repr, DecidableEq

namespace FailureCause

/-- The text of a cause. -/
def text : FailureCause → Text
  | file e => e.message
  | render e => e.message
  | unknownBackend name => Backend.unknownMessage name
  | malformedSettings => "malformed settings"
  | malformedEntry => "malformed cache entry"
  | impossible => "cannot go on"
  | message text _ => text

/-- The advice that comes with a cause. -/
def hints : FailureCause → List Text
  | unknownBackend _ => [Backend.unknownHint]
  | message _ hints => hints
  | _ => []

end FailureCause

namespace Failure

/-- A failure that interrupted nothing. -/
def ofCause (cause : FailureCause) : Failure := ⟨[], cause⟩

/-- A failure with a message, and advice. -/
def say (text : Text) (hints : List Text) : Failure := ofCause (.message text hints)

/-- The failure, seen from an activity that it interrupted. -/
def during (activity : Activity) (f : Failure) : Failure :=
  { f with activities := activity :: f.activities }

/-- The message of a failure: the interrupted activities and the cause. -/
def message (f : Failure) : Text :=
  (f.activities.flatMap fun a => (a.text ++ ": " : Text)) ++ f.cause.text

/-- The advice that comes with a failure. -/
def hints (f : Failure) : List Text := f.cause.hints

/-- An error of the file system during an activity. -/
def ofFile (activity : Activity) (e : FileError) : Failure := ⟨[activity], .file e⟩

end Failure

end AdtCompiler
