import AdtCompiler.Text.Letter
import AdtCompiler.Text.Utf8
import AdtCompiler.Token.Kind

/-!
# Words

A word is classified by the keywords of the description language, then by the words that the
language of the generated code reserves, and then by its letters: an identifier is a letter or
an underscore followed by letters, digits and underscores, and a dotted identifier is two or
more identifiers with dots between them.
-/

namespace AdtCompiler

/-! ## Identifiers -/

/-- Whether a unit of a text may begin an identifier. -/
def startsIdentifier : Text.Rune → Bool
  | .scalar c => c == 0x5F || Text.isLetter c
  | .stray _ => false

/-- Whether a unit of a text may continue an identifier. -/
def continuesIdentifier : Text.Rune → Bool
  | .scalar c => c == 0x5F || Text.isLetter c || Text.isNumeral c
  | .stray _ => false

/-- Whether a text is an identifier. -/
def isIdentifier (t : Text) : Bool :=
  match t.runes with
  | [] => false
  | first :: rest => startsIdentifier first && rest.all continuesIdentifier

/-- Whether a text is two or more identifiers with dots between them. -/
def isDottedIdentifier (t : Text) : Bool :=
  let parts := t.splitOn 46
  2 ≤ parts.length && parts.all isIdentifier

/-! ## Keywords and reserved words -/

/-- The keywords of the description language with their kinds. -/
def keywords : List (Text × TokenKind) :=
  [("package", .kwPackage), ("import", .kwImport), ("boolean", .kwBoolean), ("byte", .kwByte),
    ("char", .kwChar), ("double", .kwDouble), ("float", .kwFloat), ("int", .kwInt),
    ("long", .kwLong), ("short", .kwShort)]

/-- The words that may not be used as names, beside the keywords. -/
structure WordTable where
  reserved : List Text := []
deriving Repr, DecidableEq, Inhabited

namespace WordTable

/-- The kind of a keyword or a reserved word; a keyword stays one even when it is reserved. -/
def lookup? (table : WordTable) (word : Text) : Option TokenKind :=
  match keywords.find? (·.1 == word) with
  | some (_, kind) => some kind
  | none => if table.reserved.contains word then some .reserved else none

/-- The number of distinct words that the table knows. -/
def size (table : WordTable) : Nat :=
  ((keywords.map (·.1)) ++ table.reserved).eraseDups.length

/-- The kind of a word. -/
def classify (table : WordTable) (word : Text) : TokenKind :=
  match table.lookup? word with
  | some kind => kind
  | none =>
    if isIdentifier word then .ident
    else if isDottedIdentifier word then .dottedIdent
    else .unknown

end WordTable

end AdtCompiler
