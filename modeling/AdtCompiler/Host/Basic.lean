import AdtCompiler.Host.Log
import AdtCompiler.Host.Store

/-!
# Hosts

The compiler reads and writes files, looks at the environment and the clock, prints and keeps a
log. A host is a monad that offers these operations. The compiler is written for any host, so
that it runs on a real system and on the model of one in memory.
-/

namespace AdtCompiler

/-- A monad with a log. -/
class Logger (m : Type → Type) where
  /-- Adds an entry to the log. -/
  log : LogEntry → m Unit

/-- A monad in which the compiler can run. -/
class Host (m : Type → Type) extends Monad m, Logger m where
  /-- What a path names. -/
  status : Text → m (Except FileError FileKind)
  /-- The content of a file. -/
  load : Text → m (Except FileError Text)
  /-- Writes a whole file. -/
  save : Text → Text → m (Except FileError Unit)
  /-- Makes a directory below one that exists. -/
  makeDir : Text → m (Except FileError Unit)
  /-- The names in a directory, in order. -/
  entries : Text → m (Except FileError (List (Text × FileKind)))
  /-- Opens a new file in a directory, under a name with the given start and end. -/
  createTemp : Text → Text → Text → m (Except FileError Handle)
  /-- Writes to an open file. -/
  append : Handle → Text → m (Except FileError Unit)
  /-- Closes an open file. -/
  close : Handle → m (Except FileError Unit)
  /-- Gives a file or directory another name. -/
  rename : Text → Text → m (Except FileError Unit)
  /-- Takes the name of a file away. -/
  remove : Text → m (Except FileError Unit)
  /-- Takes away a path and everything below it. -/
  removeTree : Text → m (Except FileError Unit)
  /-- The absolute path of the working directory. -/
  workingDir : m Text
  /-- The value of an environment variable, empty if it is not set. -/
  environment : Text → m Text
  /-- The time in nanoseconds. -/
  clock : m Nat
  /-- The time as a text of digits, for names. -/
  timeStamp : m Text
  /-- Starts the log. Entries before that are lost. -/
  startLog : LogMode → m Unit
  /-- Prints results. -/
  print : Text → m Unit
  /-- Prints messages. -/
  printError : Text → m Unit
  /-- Whether results are printed for a reader at a terminal. -/
  printsToTerminal : m Bool
  /-- Whether messages are printed for a reader at a terminal. -/
  printsErrorsToTerminal : m Bool

/-- The model of a system: files in memory, a clock that stands still, and all that was printed
and logged. -/
structure World where
  store : Store := {}
  environment : List (Text × Text) := []
  logMode : Option LogMode := none
  /-- Log entries, the latest first. -/
  logged : List LogEntry := []
  printed : Text := []
  printedErrors : Text := []
deriving Repr, DecidableEq

namespace World

/-- An operation that changes the files, or fails and leaves them. -/
def change (f : Store → Except FileError Store) : StateM World (Except FileError Unit) := do
  match f (← get).store with
  | .ok store =>
    modify ({ · with store })
    return .ok ()
  | .error e => return .error e

instance : Host (StateM World) where
  status path := do return (← get).store.status path
  load path := do return (← get).store.load path
  save path text := change (·.save path text)
  makeDir path := change (·.makeDir path)
  entries path := do return (← get).store.entries path
  createTemp dir start ending := do
    match (← get).store.createTemp dir start ending with
    | .ok (store, handle) =>
      modify ({ · with store })
      return .ok handle
    | .error e => return .error e
  append handle text := change (·.append handle text)
  close handle := change (·.close handle)
  rename old new := change (·.rename old new)
  remove path := change (·.remove path)
  removeTree path := change (·.removeTree path)
  workingDir := do return Store.pathOf (← get).store.workingDir
  environment name := do return ((← get).environment.lookup name).getD []
  clock := return 0
  timeStamp := return "00000000000000"
  startLog mode := modify ({ · with logMode := some mode })
  log entry := modify fun w =>
    match w.logMode with
    | some mode => if mode.keeps entry then { w with logged := entry :: w.logged } else w
    | none => w
  print text := modify fun w => { w with printed := w.printed ++ text }
  printError text := modify fun w => { w with printedErrors := w.printedErrors ++ text }
  printsToTerminal := return false
  printsErrorsToTerminal := return false

end World

end AdtCompiler
