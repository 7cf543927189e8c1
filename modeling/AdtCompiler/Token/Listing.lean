import AdtCompiler.Format.Json
import AdtCompiler.Text.Quoted
import AdtCompiler.Token.Lexer

/-!
# Token listings

The tokens of a source as a numbered list and as JSON. Both end with the end of the source:
tokens behind it are not listed.
-/

namespace AdtCompiler

/-- What a listing shows of a token. -/
structure TokenEntry where
  kind : TokenKind
  text : Text
  line : Int
  column : Int
deriving Repr

/-- The entry of a token. -/
def Token.entry (t : Token) : TokenEntry := ⟨t.kind, t.text, t.line.toNat, t.column.toNat⟩

namespace TokenEntry

/-- The entries up to and including the end of the source. -/
def untilEnd : List TokenEntry → List TokenEntry
  | [] => []
  | t :: rest => if t.kind = .eof then [t] else t :: untilEnd rest

/-- An entry as a line: its number, kind, quoted text and position. -/
def numbered (number : Nat) (t : TokenEntry) : Text :=
  (Text.decimal number).padLeft 3 ++ ": " ++ (t.kind.name : Text).padRight 12 ++ " " ++
    t.text.quoted ++ " at " ++ Text.ofInt t.line ++ ":" ++ Text.ofInt t.column ++ "\n"

/-- The lines of entries, numbered from `number`. -/
def numberedFrom : (number : Nat) → List TokenEntry → Text
  | _, [] => []
  | number, t :: rest => t.numbered number ++ numberedFrom (number + 1) rest

/-- The numbered list of tokens. -/
def listing (tokens : List TokenEntry) : Text := numberedFrom 1 (untilEnd tokens)

/-- An entry as JSON. -/
def toJson (t : TokenEntry) : Format.Json :=
  .obj [("kind", .str t.kind.name), ("text", .str t.text), ("line", .num t.line),
    ("col", .num t.column)]

/-- The tokens as JSON. -/
def listingJson (tokens : List TokenEntry) : Text :=
  (Format.Json.arr ((untilEnd tokens).map toJson)).text

end TokenEntry

end AdtCompiler
