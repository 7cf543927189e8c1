import AdtCompiler.CommandLine.Flag
import AdtCompiler.Host.Failure

/-!
# Commands

The first argument that is no flag may name a command. Without a command, code is generated.
Some flags belong to all commands and may stand in front of the name.
-/

namespace AdtCompiler

/-- What the compiler can be told to do. -/
inductive Command where
  | generate
  | tokenize
  | parse
  | check
  | init
  | version
  | help
  | completion
deriving Repr, DecidableEq

namespace Command

/-- The names of commands. -/
def named : List (Text × Command) :=
  [("tokenize", .tokenize), ("parse", .parse), ("check", .check), ("init", .init),
    ("version", .version), ("help", .help), ("completion", .completion)]

/-- The path of a command, from the name of the program on. -/
def path (c : Command) : Text :=
  match named.find? (·.2 == c) with
  | some (name, _) => "adtc " ++ name
  | none => "adtc"

/-- The line that shows how to generate code. -/
def usageLine : Text := "adtc <src> <dest> [flags]"

/-! ## Flags -/

/-- The flags of all commands. -/
def commonFlags : List FlagSpec :=
  [⟨"backend", .text, none⟩, ⟨"config", .text, none⟩, ⟨"verbose", .switch, none⟩,
    ⟨"json-log", .switch, none⟩, ⟨"color", .text, none⟩, ⟨"max-diagnostics", .number, none⟩,
    ⟨"cpuprofile", .text, none⟩, ⟨"memprofile", .text, none⟩, ⟨"trace", .text, none⟩]

/-- The flags of a command alone. -/
def ownFlags : Command → List FlagSpec
  | .generate =>
    [⟨"timings", .switch, none⟩, ⟨"timings-format", .text, none⟩, ⟨"cache", .switch, none⟩,
      ⟨"clear-cache", .switch, none⟩, ⟨"go-package", .text, none⟩]
  | .tokenize | .parse | .check => [⟨"format", .text, none⟩]
  | .version => [⟨"format", .text, none⟩, ⟨"full", .switch, none⟩]
  | .init | .help | .completion => []

/-- The flag that asks for help. -/
def helpFlag : FlagSpec := ⟨"help", .switch, some 'h'⟩

/-- The flag that asks for the version. -/
def versionFlag : FlagSpec := ⟨"version", .switch, some 'v'⟩

/-- All flags that a command understands. -/
def flags (c : Command) : List FlagSpec :=
  c.ownFlags ++ commonFlags ++ [helpFlag] ++ if c = .generate then [versionFlag] else []

/-! ## Finding the command -/

/-- The flags that may stand in front of the name of a command. -/
def leadingFlags : List FlagSpec := ownFlags .generate ++ commonFlags

/-- Whether the next argument belongs to this one: a flag without its value that is not known to
be a switch. -/
def takesNext (argument : Text) : Bool :=
  match argument with
  | 45 :: 45 :: name =>
    !name.contains (Text.byte '=') &&
      !leadingFlags.any fun f => f.name == name && f.kind == .switch
  | [45, letter] => letter != Text.byte '='
  | _ => false

/-- Whether an argument can be the name of a command. -/
def isWord (argument : Text) : Bool :=
  !argument.isEmpty && argument.head? != some (Text.byte '-')

/-- The first argument that can be the name of a command. -/
def firstWord? : List Text → Option Text
  | [] => none
  | argument :: rest =>
    if argument = ("--" : Text) then none
    else if takesNext argument then
      match rest with
      | _ :: next :: more => firstWord? (next :: more)
      | _ => none
    else if isWord argument then some argument
    else firstWord? rest

/-- The arguments without the name of the command. -/
def withoutWord (word : Text) : List Text → List Text
  | [] => []
  | argument :: rest =>
    if argument = ("--" : Text) then argument :: rest
    else if takesNext argument then
      match rest with
      | value :: more => argument :: value :: withoutWord word more
      | [] => [argument]
    else if argument = word then rest
    else argument :: withoutWord word rest

/-- The command that arguments name, and the arguments without its name. -/
def select (arguments : List Text) : Command × List Text :=
  match firstWord? arguments with
  | none => (.generate, arguments)
  | some word =>
    match named.lookup word with
    | some c => (c, withoutWord word arguments)
    | none => (.generate, arguments)

/-! ## Numbers of arguments -/

/-- Why a command does not take the given arguments, if it does not. -/
def refusal? (c : Command) (others : List Text) : Option Failure :=
  let count := Text.decimal others.length
  match c with
  | .generate =>
    if others.length = 2 then none
    else
      some (.say ("expected a source and a destination, got " ++ count ++ " arguments")
        ["usage: " ++ usageLine])
  | .tokenize | .parse | .check =>
    if others.length = 1 then none
    else some (.say ("accepts 1 arg(s), received " ++ count) [])
  | .init =>
    if others.length ≤ 1 then none
    else some (.say ("accepts at most 1 arg(s), received " ++ count) [])
  | .version | .completion =>
    match others with
    | [] => none
    | first :: _ =>
      some (.say ("unknown command " ++ first.quoted ++ " for " ++ c.path.quoted) [])
  | .help => none

end Command

end AdtCompiler
