import AdtCompiler.Text.Integer
import AdtCompiler.Text.Quoted

/-!
# Flags

Arguments that start with a hyphen are flags: two hyphens and a name, or one hyphen and letters.
A flag has a value, which follows an equals sign or is the next argument; only switches may
leave it out. After `--` there are no flags.
-/

namespace AdtCompiler

/-- What kind of value a flag has. -/
inductive FlagKind where
  | switch
  | number
  | text
deriving Repr, DecidableEq

/-- A flag that can be given. -/
structure FlagSpec where
  name : Text
  kind : FlagKind
  /-- The letter for which the flag also stands. -/
  letter : Option Char := none
deriving Repr, DecidableEq

/-- The value of a flag. -/
inductive FlagValue where
  | switch (on : Bool)
  | number (value : Int)
  | text (value : Text)
deriving Repr, DecidableEq

/-- Why arguments cannot be understood. -/
inductive FlagError where
  /-- Two hyphens with no name behind them. -/
  | badSyntax (argument : Text)
  | unknown (name : Text)
  | unknownLetter (letter : UInt8) (letters : Text)
  | missingValue (argument : Text)
  /-- A value that is not of the flag's kind, and why. -/
  | invalidValue (flag : FlagSpec) (value reason : Text)
deriving Repr, DecidableEq

/-! ## Messages -/

/-- A flag as messages name it. -/
def FlagSpec.title (f : FlagSpec) : Text :=
  match f.letter with
  | some c => "-" ++ [Text.byte c] ++ ", --" ++ f.name
  | none => "--" ++ f.name

/-- A character between single quotes. -/
def quotedCharacter (c : Nat) : Text :=
  let inner : Text :=
    if c = 0x27 then "\\'" else if c = 0x22 then "\"" else Text.quoteRune (.scalar c)
  "'" ++ inner ++ "'"

/-- The message of the error. -/
def FlagError.message : FlagError → Text
  | .badSyntax argument => "bad flag syntax: " ++ argument
  | .unknown name => "unknown flag: --" ++ name
  | .unknownLetter letter letters =>
    "unknown shorthand flag: " ++ quotedCharacter letter.toNat ++ " in -" ++ letters
  | .missingValue argument => "flag needs an argument: " ++ argument
  | .invalidValue flag value reason =>
    "invalid argument " ++ value.quoted ++ " for " ++ flag.title.quoted ++ " flag: " ++ reason

/-! ## Values -/

/-- The spellings of on and off. -/
def switchSpellings : List (Text × Bool) :=
  [("1", true), ("t", true), ("T", true), ("TRUE", true), ("true", true), ("True", true),
    ("0", false), ("f", false), ("F", false), ("FALSE", false), ("false", false), ("False", false)]

/-- Why a text cannot be read, as the reader of the given name puts it. -/
def readingReason (reader value reason : Text) : Text :=
  "strconv." ++ reader ++ ": parsing " ++ value.quoted ++ ": " ++ reason

/-- Reads the value of a flag. -/
def FlagSpec.read (f : FlagSpec) (value : Text) : Except FlagError FlagValue :=
  match f.kind with
  | .text => .ok (.text value)
  | .switch =>
    match switchSpellings.lookup value with
    | some on => .ok (.switch on)
    | none =>
      .error (.invalidValue f value
        (readingReason "ParseBool" value Text.IntegerError.malformed.message))
  | .number =>
    match Text.readSigned none value with
    | .ok n => .ok (.number n)
    | .error e => .error (.invalidValue f value (readingReason "ParseInt" value e.message))

/-! ## Reading arguments -/

/-- Arguments that were understood: the flags, the latest first, and all others in order. -/
structure Arguments where
  flags : List (Text × FlagValue) := []
  others : List Text := []
deriving Repr, DecidableEq

namespace Arguments

/-- Adds a flag. -/
def give (a : Arguments) (f : FlagSpec) (value : Text) : Except FlagError Arguments :=
  (f.read value).map fun v => { a with flags := (f.name, v) :: a.flags }

/-- Adds an argument that is no flag. -/
def add (a : Arguments) (argument : Text) : Arguments :=
  { a with others := a.others ++ [argument] }

/-- Reads the letters behind a hyphen. All flags with letters are switches; a value for one may
follow an equals sign. -/
def readLetters (specs : List FlagSpec) (a : Arguments) : Text → Except FlagError Arguments
  | [] => .ok a
  | letter :: rest =>
    match specs.find? fun f => f.letter.map Text.byte == some letter with
    | none => .error (.unknownLetter letter (letter :: rest))
    | some f =>
      match rest with
      | 61 :: b :: value => a.give f (b :: value)
      | _ => do readLetters specs (← a.give f "true") rest

/-- A name, and the value behind an equals sign if there is one. -/
def splitValue (t : Text) : Text × Option Text :=
  match Text.cut? "=" t with
  | some (name, value) => (name, some value)
  | none => (t, none)

/-- Reads arguments on top of those that were read before. -/
def readMore (specs : List FlagSpec) (a : Arguments) : List Text → Except FlagError Arguments
  | [] => .ok a
  | argument :: rest =>
    match argument with
    | [45, 45] => .ok { a with others := a.others ++ rest }
    | 45 :: 45 :: b :: more =>
      if b = Text.byte '-' ∨ b = Text.byte '=' then .error (.badSyntax argument)
      else
        let (name, value) := splitValue (b :: more)
        match specs.find? (·.name == name) with
        | none => .error (.unknown name)
        | some f =>
          match value with
          | some value => do readMore specs (← a.give f value) rest
          | none =>
            if f.kind = .switch then do readMore specs (← a.give f "true") rest
            else
              match rest with
              | value :: rest => do readMore specs (← a.give f value) rest
              | [] => .error (.missingValue argument)
    | 45 :: letter :: letters => do readMore specs (← a.readLetters specs (letter :: letters)) rest
    | _ => readMore specs (a.add argument) rest

/-- Reads arguments. -/
def read (specs : List FlagSpec) (arguments : List Text) : Except FlagError Arguments :=
  readMore specs {} arguments

/-- Whether a switch is on; `none` if it was not given. -/
def switch? (a : Arguments) (name : Text) : Option Bool :=
  match a.flags.lookup name with
  | some (.switch on) => some on
  | _ => none

/-- Whether a switch was given and is on. -/
def isOn (a : Arguments) (name : Text) : Bool := (a.switch? name).getD false

/-- The number that was given. -/
def number? (a : Arguments) (name : Text) : Option Int :=
  match a.flags.lookup name with
  | some (.number n) => some n
  | _ => none

/-- The text that was given. -/
def text? (a : Arguments) (name : Text) : Option Text :=
  match a.flags.lookup name with
  | some (.text t) => some t
  | _ => none

end Arguments

end AdtCompiler
