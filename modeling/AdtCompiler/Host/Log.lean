import AdtCompiler.Format.Json

/-!
# Log entries

What the compiler tells about its own work: a level, a message and named values.
-/

namespace AdtCompiler

/-- How important a log entry is. -/
inductive LogLevel where
  | debug
  | info
  | warning
deriving Repr, DecidableEq

namespace LogLevel

/-- The name of a level. -/
def name : LogLevel → Text
  | debug => "DEBUG"
  | info => "INFO"
  | warning => "WARN"

/-- The name of a level in lower case. -/
def lowerName : LogLevel → Text
  | debug => "debug"
  | info => "info"
  | warning => "warn"

end LogLevel

/-- A value in a log entry. -/
inductive LogValue where
  | text (value : Text)
  | number (value : Nat)
deriving Repr, DecidableEq

/-- An entry of the log. -/
structure LogEntry where
  level : LogLevel
  message : Text
  fields : List (Text × LogValue)
deriving Repr, DecidableEq

/-- A value as it is written in the log. -/
def LogValue.written : LogValue → Text
  | .text t => Format.Json.quoted t
  | .number n => Text.decimal n

/-- How the log is written: with every entry or only those above the debug level, and as lines
of JSON or for readers. -/
structure LogMode where
  verbose : Bool
  json : Bool
deriving Repr, DecidableEq

/-- Whether an entry is written at all. -/
def LogMode.keeps (mode : LogMode) (entry : LogEntry) : Bool :=
  mode.verbose || entry.level != .debug

namespace LogEntry

/-- An entry on a line for readers. -/
def line (e : LogEntry) : Text :=
  let members : List Text :=
    e.fields.map fun (name, value) => Format.Json.quoted name ++ ": " ++ value.written
  e.level.name ++ "\t" ++ e.message ++
    Text.when (!members.isEmpty) ("\t\x7b" ++ Text.join ", " members ++ "\x7d") ++ "\n"

/-- An entry as a line of JSON. -/
def jsonLine (e : LogEntry) : Text :=
  let members : List Text :=
    e.fields.map fun (name, value) => "," ++ Format.Json.quoted name ++ ":" ++ value.written
  "\x7b\"level\":" ++ Format.Json.quoted e.level.lowerName ++ ",\"msg\":" ++
    Format.Json.quoted e.message ++ members.flatten ++ "\x7d\n"

/-- An entry as the log shows it. -/
def written (e : LogEntry) (mode : LogMode) : Text := if mode.json then e.jsonLine else e.line

end LogEntry

end AdtCompiler
