import AdtCompiler.CommandLine.Command
import AdtCompiler.CommandLine.Profile
import AdtCompiler.Diagnostic.Report
import AdtCompiler.Run.Generate
import AdtCompiler.Settings.Discovery
import AdtCompiler.Syntax.View
import AdtCompiler.Token.Listing

/-!
# Running a command

A command reads its flags, starts the log and the profiles, and does its work. Results are
printed apart from diagnostics and failures. Where diagnostics were printed already, a run fails
without another message.
-/

namespace AdtCompiler

/-- How a command ends. -/
inductive CommandEnd where
  | done
  /-- The diagnostics that were printed hold errors. -/
  | reported
  | failed (failure : Failure)
deriving Repr, DecidableEq

namespace CommandEnd

/-- An earlier failure stays; otherwise a later one counts. -/
def andThen : CommandEnd → Option Failure → CommandEnd
  | .done, some failure => .failed failure
  | ending, _ => ending

/-- What is printed about a failure: its message, and advice on lines of its own. -/
def message : CommandEnd → Text
  | .failed failure =>
    "adtc: " ++ failure.message ++ "\n" ++
      failure.hints.flatMap fun hint => ("hint: " ++ hint ++ "\n" : Text)
  | _ => []

/-- The exit code. -/
def code : CommandEnd → UInt8
  | .done => 0
  | _ => 1

end CommandEnd

namespace Command

/-! ## Options -/

/-- The options of a run: the settings of the project, and the flags, which have the last word. -/
def options (settings : Settings) (a : Arguments) : Options :=
  { backend := (a.text? "backend").getD settings.backend
    goPackage := (a.text? "go-package").getD settings.goPackage
    extension := settings.extension
    cache := (a.switch? "cache").getD settings.cache
    clearCache := a.isOn "clear-cache"
    maxDiagnostics := (a.number? "max-diagnostics").getD 100 }

/-- Finds the settings, and the options they lead to. -/
def loadOptions [Host m] (a : Arguments) : m (Except Failure Options) := do
  match ← Settings.discover ((a.text? "config").getD []) "." with
  | .error e => return .error e
  | .ok (settings, found) =>
    if let some path := found then
      Logger.log ⟨.debug, "loaded configuration", [("path", .text path)]⟩
    match settings.versionFailure? BuildInfo.current.version with
    | some failure => return .error failure
    | none => return .ok (options settings a)

/-- The format that was asked for. -/
def format (a : Arguments) : Text := (a.text? "format").getD "pretty"

/-- The failure for a format that there is not. -/
def unknownFormat (name : Text) : CommandEnd := .failed (.say ("unknown format: " ++ name) [])

/-! ## Diagnostics -/

/-- Whether diagnostics are printed in colours. -/
def usesColours [Host m] (a : Arguments) : m (Except Failure Bool) := do
  let mode := (a.text? "color").getD "auto"
  if mode = ("on" : Text) then return .ok true
  else if mode = ("off" : Text) then return .ok false
  else if mode = ("auto" : Text) then return .ok (← Host.printsErrorsToTerminal)
  else
    return .error (.say ("unsupported color mode " ++ mode.quoted) ["use auto, on or off"])

/-- Prints diagnostics, and tells whether there are errors among them. -/
def printDiagnostics [Host m] (a : Arguments) (bag : Bag) (files : FileSet) :
    m (Except Failure Bool) := do
  if bag.size = 0 then return .ok false
  match ← usesColours a with
  | .error e => return .error e
  | .ok colours =>
    match bag.sort.report? files colours true with
    | none => return .error (.ofCause .impossible)
    | some text =>
      Host.printError text
      return .ok bag.hasErrors

/-- Prints the diagnostics of a source, and goes on with what was found out about it. -/
def afterDiagnostics [Host m] (a : Arguments) (i : Inspection) (next : Bool → m CommandEnd) :
    m CommandEnd := do
  match ← printDiagnostics a i.bag i.files with
  | .error e => return .failed e
  | .ok hasErrors => next hasErrors

/-- Looks at a source with the options that apply, and goes on with what was found out. -/
def inspecting [Host m] (a : Arguments)
    (look : Options → Text → m (Except Failure Inspection))
    (next : Inspection → m CommandEnd) : m CommandEnd := do
  match ← loadOptions a with
  | .error e => return .failed e
  | .ok options =>
    match ← look options (a.others.headD []) with
    | .error e => return .failed e
    | .ok inspection => next inspection

/-- Prints a text, and is done. -/
def printed [Host m] (text : Text) : m CommandEnd := do
  Host.print text
  return .done

/-! ## The commands -/

/-- Prints the timings of a run. -/
def printTimings [Host m] (a : Arguments) (source : Text) (timer : Timer) : m (Option Failure) := do
  let format := (a.text? "timings-format").getD "pretty"
  if format = ("pretty" : Text) then
    Host.printError timer.summary
    return none
  else if format = ("json" : Text) then
    Host.printError (timer.json "generate" source)
    return none
  else
    return some (.say ("unknown timings format " ++ format.quoted) ["use pretty or json"])

/-- Generates code from a source or a directory of sources. -/
def runGenerate [Host m] (a : Arguments) (source destination : Text) : m CommandEnd := do
  match ← loadOptions a with
  | .error e => return .failed e
  | .ok options =>
    match ← options.generate source destination with
    | .error e | .ok (some e, _) => return .failed e
    | .ok (none, g) =>
      match ← printDiagnostics a g.bag g.files with
      | .error e => return .failed e
      | .ok hasErrors =>
        let failure ← if a.isOn "timings" then printTimings a source g.timer else pure none
        return match failure with
          | some e => .failed e
          | none => if hasErrors then .reported else .done

/-- Prints the tokens of a source. -/
def runTokenize [Host m] (a : Arguments) : m CommandEnd :=
  inspecting a Options.tokenize fun i => afterDiagnostics a i fun _ => do
    let entries := i.tokens.map Token.entry
    if format a = ("pretty" : Text) then printed (TokenEntry.listing entries)
    else if format a = ("json" : Text) then printed (TokenEntry.listingJson entries)
    else return unknownFormat (format a)

/-- Prints what is written of a document. -/
def printedDoc [Host m] (doc : Doc) (write : Doc → Text) : m CommandEnd :=
  match doc.written? write with
  | none => return .failed (.ofCause .impossible)
  | some text => printed text

/-- Prints the document that a source declares. -/
def runParse [Host m] (a : Arguments) : m CommandEnd :=
  inspecting a Options.parse fun i => afterDiagnostics a i fun hasErrors => do
    if hasErrors then return .reported
    match i.doc with
    | none => return .failed (.ofCause .impossible)
    | some doc =>
      if format a = ("pretty" : Text) then printedDoc doc Doc.text
      else if format a = ("json" : Text) then printedDoc doc Doc.json
      else if format a = ("yaml" : Text) then printedDoc doc Doc.yaml
      else return unknownFormat (format a)

/-- Prints the errors of a source. -/
def runCheck [Host m] (a : Arguments) : m CommandEnd :=
  inspecting a Options.check fun i => do
    if format a = ("pretty" : Text) then
      afterDiagnostics a i fun hasErrors => do
        if hasErrors then return .reported
        printed (a.others.headD [] ++ ": ok\n")
    else if format a = ("json" : Text) then
      match i.bag.sort.reportJson? i.files true 0 true with
      | none => return .failed (.ofCause .impossible)
      | some text =>
        Host.print text
        return if i.bag.hasErrors then .reported else .done
    else return unknownFormat (format a)

/-- Writes the default settings to a file in a directory, and makes the directory if need be. -/
def runInit [Host m] (a : Arguments) : m CommandEnd := do
  let dir := a.others.headD "."
  match ← makeDirs dir with
  | .error e => return .failed (.ofFile (.creating dir) e)
  | .ok () =>
    let path := Path.join [dir, Settings.fileName]
    match ← Host.status path with
    | .ok _ =>
      return .failed
        (.say (path ++ " already exists") ["edit the existing file or remove it first"])
    | .error e =>
      if e.cause ≠ .notFound then return .failed (.ofFile (.checking path) e)
      let settings : Settings := { requires := ">= " ++ BuildInfo.current.version }
      match ← Host.save path settings.text with
      | .error e => return .failed (.ofFile (.writing path) e)
      | .ok () => printed ("created " ++ path ++ "\n")

/-- Prints the version of the compiler. -/
def runVersion [Host m] (a : Arguments) : m CommandEnd := do
  let build := BuildInfo.current.clean
  let asked := (format a).map Text.lowerByte
  if asked = ("pretty" : Text) then
    printed (build.pretty (← Host.printsToTerminal) (a.isOn "full"))
  else if asked = ("json" : Text) then printed (build.json (a.isOn "full"))
  else
    return .failed
      (.say ("unsupported format " ++ (format a).quoted ++ " (must be pretty or json)") [])

/-- How commands are used. -/
def helpText : Text :=
  "Usage:\n  " ++ usageLine ++ "\n\nCommands:\n" ++
    (named.flatMap fun (name, _) => ("  " ++ name ++ "\n" : Text)) ++ "\nFlags:\n" ++
    (flags .generate).flatMap fun f => ("  " ++ f.title ++ "\n" : Text)

/-- Does the work of a command. -/
def perform [Host m] (c : Command) (a : Arguments) : m CommandEnd :=
  match c with
  | .generate =>
    match a.others with
    | [source, destination] => runGenerate a source destination
    | _ => return .failed (.ofCause .impossible)
  | .tokenize => runTokenize a
  | .parse => runParse a
  | .check => runCheck a
  | .init => runInit a
  | .version => runVersion a
  | .help | .completion => printed helpText

/-- Starts the log and the profiles, does the work of a command, and finishes the profiles. -/
def performLogged [Host m] (c : Command) (a : Arguments) : m CommandEnd := do
  Host.startLog ⟨a.isOn "verbose", a.isOn "json-log"⟩
  let profiles := ProfileFiles.ofArguments a
  match ← profiles.start with
  | some failure => return .failed failure
  | none =>
    let ending ← c.perform a
    return ending.andThen (← profiles.finish)

/-- Runs the command that arguments name. -/
def run [Host m] (arguments : List Text) : m CommandEnd := do
  let (c, rest) := select arguments
  match Arguments.read c.flags rest with
  | .error e => return .failed (.say e.message [])
  | .ok a =>
    if a.isOn "help" then printed helpText
    else if c = .generate ∧ a.isOn "version" then
      printed ("adtc version " ++ BuildInfo.current.version ++ "\n")
    else
      match c.refusal? a.others with
      | some failure => return .failed failure
      | none => c.performLogged a

end Command

end AdtCompiler
