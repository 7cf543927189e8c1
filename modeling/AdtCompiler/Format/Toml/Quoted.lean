import AdtCompiler.Text.Utf8

/-!
# Strings and keys in settings

How strings are written between double quotes and read back, and how keys are written. A
string between single quotes stands for itself.
-/

namespace AdtCompiler.Format.Toml

/-! ## Writing -/

/-- A byte as it is written between double quotes. -/
def quoteByte (b : UInt8) : Text :=
  match b with
  | 0x22 => "\\\""
  | 0x5C => "\\\\"
  | 0x08 => "\\b"
  | 0x09 => "\\t"
  | 0x0A => "\\n"
  | 0x0C => "\\f"
  | 0x0D => "\\r"
  | b => if b < 0x20 ∨ b = 0x7F then "\\u" ++ Text.hexFixed 4 b.toNat else [b]

/-- A text between double quotes. -/
def quoted (t : Text) : Text := "\"" ++ t.flatMap quoteByte ++ "\""

/-- Whether a byte can stand in a key without quotes. -/
def isBareByte (b : UInt8) : Bool :=
  Text.isDigit b || (65 ≤ b && b ≤ 90) || (97 ≤ b && b ≤ 122) || b == Text.byte '_' ||
    b == Text.byte '-'

/-- A key: its parts from the outermost table down. -/
abbrev Key := List Text

/-- A part of a key, in quotes if it needs them. -/
def keyPartText (part : Text) : Text :=
  if part.isEmpty || !part.all isBareByte then quoted part else part

/-- A key, with dots between its parts. -/
def keyText (key : Key) : Text := Text.join "." (key.map keyPartText)

/-! ## Reading -/

/-- The number of hexadecimal digits. -/
def hexNumber? (digits : Text) : Option Nat :=
  digits.foldlM (fun n b => (Text.hexValue? b).map (n * 16 + ·)) 0

/-- The character of an escape by number, unless there is none of that number. -/
def escapedCode? (digits : Text) : Option Text := do
  let code ← hexNumber? digits
  guard (code < 0xD800 ∨ (0xE000 ≤ code ∧ code < 0x110000))
  return Text.ofCode code

/-- Reads what stands between double quotes; there is nothing to read if an escape is unknown. -/
def unescape? : Text → Option Text
  | [] => some []
  | 92 :: 98 :: rest => (unescape? rest).map (0x08 :: ·)
  | 92 :: 116 :: rest => (unescape? rest).map (0x09 :: ·)
  | 92 :: 110 :: rest => (unescape? rest).map (0x0A :: ·)
  | 92 :: 102 :: rest => (unescape? rest).map (0x0C :: ·)
  | 92 :: 114 :: rest => (unescape? rest).map (0x0D :: ·)
  | 92 :: 34 :: rest => (unescape? rest).map (0x22 :: ·)
  | 92 :: 92 :: rest => (unescape? rest).map (0x5C :: ·)
  | 92 :: 117 :: a :: b :: c :: d :: rest => do
    let code ← escapedCode? [a, b, c, d]
    return code ++ (← unescape? rest)
  | 92 :: 85 :: a :: b :: c :: d :: e :: f :: g :: h :: rest => do
    let code ← escapedCode? [a, b, c, d, e, f, g, h]
    return code ++ (← unescape? rest)
  | 92 :: _ => none
  | b :: rest => (unescape? rest).map (b :: ·)

/-- What stands before the closing double quote of a line, escapes included, and the rest. -/
def untilQuote? : Text → Option (Text × Text)
  | [] => none
  | 34 :: rest => some ([], rest)
  | 10 :: _ => none
  | 13 :: _ => none
  | 92 :: b :: rest => (untilQuote? rest).map fun (t, rest) => (92 :: b :: t, rest)
  | b :: rest => (untilQuote? rest).map fun (t, rest) => (b :: t, rest)

/-- What stands before the closing single quote of a line, and the rest. -/
def untilSingleQuote? : Text → Option (Text × Text)
  | [] => none
  | 39 :: rest => some ([], rest)
  | 10 :: _ => none
  | 13 :: _ => none
  | b :: rest => (untilSingleQuote? rest).map fun (t, rest) => (b :: t, rest)

/-- Whether a text, given backwards, ends in five quotes. Five are the most that can stand at the
end of a string of lines: two of its own and three that close it. A backslash in front of them
takes one quote away. -/
def endsInFive (quote : UInt8) (backwards : Text) : Bool :=
  backwards.take 5 == List.replicate 5 quote &&
    !(quote == 34 && backwards[5]? == some (Text.byte '\\'))

/-- What stands before three closing quotes, and the rest. Escapes are left out of account if
`escapes` does not hold. What was read before is given backwards. -/
def untilTriple? (quote : UInt8) (escapes : Bool) :
    (fuel : Nat) → (before : Text) → Text → Option (Text × Text)
  | 0, _, _ => none
  | _ + 1, _, [] => none
  | fuel + 1, before, b :: rest =>
    if escapes && b == Text.byte '\\' then
      match rest with
      | c :: rest => untilTriple? quote escapes fuel (c :: b :: before) rest
      | [] => none
    else if b = quote ∧ rest.take 2 = [quote, quote] then
      if (rest.drop 2).head? = some quote then
        if endsInFive quote (quote :: quote :: quote :: before) then none
        else untilTriple? quote escapes fuel (b :: before) rest
      else some (before.reverse, rest.drop 2)
    else untilTriple? quote escapes fuel (b :: before) rest

/-- A string of lines without the line break at its start. -/
def dropFirstBreak : Text → Text
  | 10 :: rest => rest
  | 13 :: 10 :: rest => rest
  | t => t

/-- Whether a byte is a blank or part of a line break. -/
def isSpace (b : UInt8) : Bool := b == 32 || b == 9 || b == 10 || b == 13

/-- Takes away each backslash at the end of a line, with the white space that follows it. Every
step takes a byte away, so the length of the text is fuel enough. -/
def joinLines : (fuel : Nat) → Text → Text
  | 0, t => t
  | _ + 1, [] => []
  | fuel + 1, 92 :: 92 :: rest => 92 :: 92 :: joinLines fuel rest
  | fuel + 1, 92 :: rest =>
    if (rest.takeWhile isSpace).contains 10 then joinLines fuel (rest.dropWhile isSpace)
    else 92 :: joinLines fuel rest
  | fuel + 1, b :: rest => b :: joinLines fuel rest

/-- Reads the string behind an opening double quote, and gives the rest. -/
def string? (t : Text) : Option (Text × Text) := do
  let (raw, rest) ← untilQuote? t
  return (← unescape? raw, rest)

/-- Reads the string of lines behind three double quotes, and gives the rest. -/
def lines? (t : Text) : Option (Text × Text) := do
  let (raw, rest) ← untilTriple? 34 true (t.length + 1) [] t
  let raw := dropFirstBreak raw
  return (← unescape? (joinLines raw.length raw), rest)

/-- Reads the string of lines behind three single quotes, and gives the rest. -/
def rawLines? (t : Text) : Option (Text × Text) := do
  let (raw, rest) ← untilTriple? 39 false (t.length + 1) [] t
  return (dropFirstBreak raw, rest)

end AdtCompiler.Format.Toml
