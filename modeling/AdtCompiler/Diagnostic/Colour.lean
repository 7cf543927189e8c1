import AdtCompiler.Text.Basic

/-!
# Terminal colours

A style is a list of attributes. Coloured text starts with their numbers and ends with the
numbers that take each of them back: bold has one of its own, and a colour falls back to the
default of the terminal.
-/

namespace AdtCompiler

/-- An attribute of text on a terminal. -/
inductive TextAttribute where
  | bold
  | red
  | green
  | yellow
  | blue
  | cyan
deriving Repr, DecidableEq

namespace TextAttribute

/-- The number that turns the attribute on. -/
def number : TextAttribute → Nat
  | bold => 1
  | red => 31
  | green => 32
  | yellow => 33
  | blue => 34
  | cyan => 36

/-- The number that turns the attribute off. -/
def resetNumber : TextAttribute → Nat
  | bold => 22
  | _ => 0

end TextAttribute

/-- A way to show text on a terminal. -/
abbrev TextStyle := List TextAttribute

namespace TextStyle

/-- The sequence that sends numbers to the terminal. -/
def sequence (numbers : List Nat) : Text :=
  "\x1b[" ++ Text.join ";" (numbers.map Text.decimal) ++ "m"

/-- The text in the style. Without colours it stays as it is. -/
def paint (style : TextStyle) (colours : Bool) (t : Text) : Text :=
  if colours then
    sequence (style.map TextAttribute.number) ++ t ++ sequence (style.map TextAttribute.resetNumber)
  else t

end TextStyle

end AdtCompiler
