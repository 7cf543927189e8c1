import AdtCompiler.Text.Utf8

/-!
# Blank characters

The characters that Unicode counts as white space, and texts without such characters at their
end.
-/

namespace AdtCompiler.Text

/-- Whether a character is white space. -/
def isBlank (c : Nat) : Bool :=
  (9 ≤ c && c ≤ 13) || c == 0x20 || c == 0x85 || c == 0xA0 || c == 0x1680 ||
    (0x2000 ≤ c && c ≤ 0x200A) || c == 0x2028 || c == 0x2029 || c == 0x202F || c == 0x205F ||
    c == 0x3000

/-- Whether a unit of a text is white space. -/
def Rune.isBlank : Rune → Bool
  | .scalar c => Text.isBlank c
  | .stray _ => false

/-- The units in front of the white space at the end. -/
def dropBlankEnd (rs : List Rune) : List Rune := (rs.reverse.dropWhile Rune.isBlank).reverse

/-- The text without white space at its end. -/
def trimRight (t : Text) : Text := (dropBlankEnd t.runes).flatMap Rune.bytes

/-- The text without white space at both ends. -/
def trim (t : Text) : Text :=
  (dropBlankEnd (t.runes.dropWhile Rune.isBlank)).flatMap Rune.bytes

end AdtCompiler.Text
