import AdtCompiler.Text.Printable
import AdtCompiler.Text.Utf8

/-!
# Quoted texts

A text between double quotes, with everything that is not printable written as an escape. A
byte that is not UTF-8 is written in hexadecimal, so that the quoted text shows it exactly.
-/

namespace AdtCompiler.Text

/-- The letter of a short escape. -/
def escapeLetter? (c : Nat) : Option Char :=
  match c with
  | 0x07 => some 'a'
  | 0x08 => some 'b'
  | 0x09 => some 't'
  | 0x0A => some 'n'
  | 0x0B => some 'v'
  | 0x0C => some 'f'
  | 0x0D => some 'r'
  | 0x22 => some '"'
  | 0x5C => some '\\'
  | _ => none

/-- A unit of a text as it is written between quotes. -/
def quoteRune : Rune → Text
  | .stray b => "\\x" ++ hexFixed 2 b.toNat
  | .scalar c =>
    match escapeLetter? c with
    | some letter => [byte '\\', byte letter]
    | none =>
      if isPrintable c then ofCode c
      else if c < 0x20 ∨ c = 0x7F then "\\x" ++ hexFixed 2 c
      else if c < 0x10000 then "\\u" ++ hexFixed 4 c
      else "\\U" ++ hexFixed 8 c

/-- The text between double quotes. -/
def quoted (t : Text) : Text := "\"" ++ t.runes.flatMap quoteRune ++ "\""

end AdtCompiler.Text
