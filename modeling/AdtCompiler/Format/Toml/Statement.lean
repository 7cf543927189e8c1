import AdtCompiler.Format.Toml.Moment
import AdtCompiler.Format.Toml.Number
import AdtCompiler.Format.Toml.Quoted

/-!
# Statements of settings

A file of settings is a list of statements, one to a line: the name of the table that the
following lines belong to, the name of a list of tables that gets another member, or a key with
its value. What the statements mean together is not decided here.
-/

namespace AdtCompiler.Format.Toml

/-- A value as it is written. -/
inductive Expr where
  | string (value : Text)
  | boolean (value : Bool)
  | integer (value : Int)
  | fraction (numeral : Text)
  /-- A date, a time, or both. -/
  | moment (spelling : Text)
  | array (items : List Expr)
  /-- A table in braces. -/
  | inline (members : List (Key × Expr))
deriving Inhabited

/-- A statement. -/
inductive Statement where
  | table (key : Key)
  | nextOf (key : Key)
  | assign (key : Key) (value : Expr)
deriving Inhabited

/-! ## Gaps -/

/-- The text without blanks in front. -/
def dropBlanks (t : Text) : Text := t.dropWhile fun b => b == 32 || b == 9

/-- The text without blanks, line breaks and comments in front. -/
def dropGaps : (inComment : Bool) → Text → Text
  | _, [] => []
  | true, b :: rest => dropGaps (b != 10) rest
  | false, b :: rest =>
    if isSpace b then dropGaps false rest
    else if b = Text.byte '#' then dropGaps true rest
    else b :: rest

/-- The text behind the end of a line, if the line ends here. -/
def behindLine? (t : Text) : Option Text :=
  match dropBlanks t with
  | [] => some []
  | b :: rest =>
    if b = 10 ∨ b = 13 then some rest
    else if b = Text.byte '#' then some (rest.dropWhile (· != 10))
    else none

/-! ## Keys -/

/-- A part of a key, and the rest. -/
def keyPart? (t : Text) : Option (Text × Text) :=
  match dropBlanks t with
  | 34 :: rest => string? rest
  | 39 :: rest => untilSingleQuote? rest
  | t =>
    match t.takeWhile isBareByte with
    | [] => none
    | part => some (part, t.dropWhile isBareByte)

/-- A key with at most as many parts as the fuel allows, and the rest without blanks in front. -/
def keyWithin? : (fuel : Nat) → Text → Option (Key × Text)
  | 0, _ => none
  | fuel + 1, t => do
    let (part, rest) ← keyPart? t
    match dropBlanks rest with
    | 46 :: more =>
      let (parts, rest) ← keyWithin? fuel more
      return (part :: parts, rest)
    | rest => return ([part], rest)

/-- A key, and the rest. A key has no more parts than bytes. -/
def key? (t : Text) : Option (Key × Text) := keyWithin? t.length t

/-! ## Values -/

/-- A number, a date or a time, and the rest. -/
def numeral? (t : Text) : Option (Expr × Text) := do
  let (shape, numeral, rest) ← scanNumber? t
  match shape with
  | .integer => return (.integer (← integer? numeral), rest)
  | .fraction => if isFraction numeral then return (.fraction numeral, rest) else none
  | .moment => if isMoment numeral then return (.moment numeral, rest) else none

/-- Words that are values. -/
def wordValues : List (Text × Expr) :=
  ("true", .boolean true) :: ("false", .boolean false) ::
    (["inf", "nan", "+inf", "+nan", "-inf", "-nan"].map Text.ofString).map fun t => (t, .fraction t)

/-- A word, a number, a date or a time, and the rest. -/
def plain? (t : Text) : Option (Expr × Text) :=
  match wordValues.find? fun (word, _) => word.isPrefixOf t with
  | some (word, value) => some (value, t.drop word.length)
  | none =>
    if t.head?.any fun b => Text.isDigit b || b == Text.byte '+' || b == Text.byte '-' then
      numeral? t
    else none

mutual

/-- A value, and the rest. -/
def valueWithin? : (fuel : Nat) → Text → Option (Expr × Text)
  | 0, _ => none
  | fuel + 1, t =>
    match dropBlanks t with
    | 91 :: rest => (itemsWithin? fuel rest).map fun (items, rest) => (.array items, rest)
    | 123 :: rest =>
      match dropBlanks rest with
      | 125 :: rest => some (.inline [], rest)
      | rest => (membersWithin? fuel rest).map fun (members, rest) => (.inline members, rest)
    | 34 :: 34 :: 34 :: rest => (lines? rest).map fun (t, rest) => (.string t, rest)
    | 34 :: rest => (string? rest).map fun (t, rest) => (.string t, rest)
    | 39 :: 39 :: 39 :: rest => (rawLines? rest).map fun (t, rest) => (.string t, rest)
    | 39 :: rest => (untilSingleQuote? rest).map fun (t, rest) => (.string t, rest)
    | t => plain? t

/-- The items of an array up to its end, and the rest. A comma may follow the last item. -/
def itemsWithin? : (fuel : Nat) → Text → Option (List Expr × Text)
  | 0, _ => none
  | fuel + 1, t =>
    match dropGaps false t with
    | 93 :: rest => some ([], rest)
    | t => do
      let (item, rest) ← valueWithin? fuel t
      match dropGaps false rest with
      | 44 :: rest =>
        let (items, rest) ← itemsWithin? fuel rest
        return (item :: items, rest)
      | 93 :: rest => return ([item], rest)
      | _ => none

/-- The members of a table in braces up to its end, and the rest. -/
def membersWithin? : (fuel : Nat) → Text → Option (List (Key × Expr) × Text)
  | 0, _ => none
  | fuel + 1, t => do
    let (key, rest) ← key? t
    let rest ← behind? '=' rest
    let (value, rest) ← valueWithin? fuel rest
    match dropBlanks rest with
    | 44 :: rest =>
      let (members, rest) ← membersWithin? fuel rest
      return ((key, value) :: members, rest)
    | 125 :: rest => return ([(key, value)], rest)
    | _ => none

end

/-- A value, and the rest. No value nests deeper than twice its length. -/
def value? (t : Text) : Option (Expr × Text) := valueWithin? (2 * t.length + 2) t

/-! ## Statements -/

/-- A statement, and the rest of its line. -/
def statement? (t : Text) : Option (Statement × Text) :=
  match t with
  | 91 :: 91 :: rest => do
    let (key, rest) ← key? rest
    return (.nextOf key, ← behind? ']' (← behind? ']' rest))
  | 91 :: rest => do
    let (key, rest) ← key? rest
    return (.table key, ← behind? ']' rest)
  | t => do
    let (key, rest) ← key? t
    let (value, rest) ← value? (← behind? '=' rest)
    return (.assign key value, rest)

/-- Statements, at most as many as the fuel allows. -/
def statementsWithin? : (fuel : Nat) → Text → Option (List Statement)
  | 0, _ => none
  | fuel + 1, t =>
    match dropGaps false t with
    | [] => some []
    | t => do
      let (statement, rest) ← statement? t
      let more ← statementsWithin? fuel (← behindLine? rest)
      return statement :: more

/-- Whether a text has no control characters but tabs and line breaks. A carriage return has to
be followed by a line feed. -/
def hasFairControls : Text → Bool
  | [] => true
  | 13 :: 10 :: rest => hasFairControls rest
  | b :: rest => (b == 9 || b == 10 || (0x20 ≤ b && b != 0x7F)) && hasFairControls rest

/-- The text without a byte order mark in front. -/
def dropByteOrderMark : Text → Text
  | 0xFF :: 0xFE :: rest => rest
  | 0xFE :: 0xFF :: rest => rest
  | 0xEF :: 0xBB :: 0xBF :: rest => rest
  | t => t

/-- Whether a text holds the character that stands for bytes that could not be read. It has no
place in settings, since it tells that something was lost. -/
def hasReplacement (t : Text) : Bool := t.runes.any fun r => r.code == 0xFFFD

/-- Reads a file of settings as statements. -/
def statements? (t : Text) : Option (List Statement) :=
  let t := dropByteOrderMark t
  if Text.isUtf8 t && !hasReplacement t && hasFairControls t then statementsWithin? (t.length + 1) t
  else none

end AdtCompiler.Format.Toml
