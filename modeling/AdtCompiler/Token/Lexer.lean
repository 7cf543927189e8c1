import AdtCompiler.Token.Cursor
import AdtCompiler.Token.Word

/-!
# Tokens of a source file

The lexer never fails: what the language does not know becomes a token of kind `unknown`, and
behind the last token there is an end token for ever. Blanks and comments separate tokens.

## Contents

- trivia: blanks, `//` comments up to the line end, and `/*` comments up to `*/` or the end
- lexemes: a punctuation mark, a lone `/` or `*`, or the longest run of other bytes
- a token stream with one token of lookahead
-/

namespace AdtCompiler

/-- A token with its text and its place. -/
structure Token where
  kind : TokenKind
  text : Text
  line : UInt32
  column : UInt32
  span : Span
deriving Repr, DecidableEq, Inhabited

namespace Token

/-- The text of the end token. -/
def eofText : Text := "<EOF>"

/-! ## Trivia -/

/-- Whether a byte is a blank. -/
def isBlank (b : UInt8) : Bool := b == 32 || b == 9 || b == 10 || b == 13

/-- Within what the lexer is when it skips: blanks, a line comment or a block comment. -/
inductive Trivia where
  | blank
  | line
  | block
deriving Repr, DecidableEq

/-- The byte `/`, which opens comments. -/
def slash : UInt8 := 47

/-- The byte `*`, which marks block comments. -/
def star : UInt8 := 42

/-- What is left of a text behind the blanks and comments at its head. -/
def skipTrivia : Trivia → Text → Text
  | _, [] => []
  | .blank, b :: t =>
    if isBlank b then skipTrivia .blank t
    else if b = slash then
      match t with
      | [] => [b]
      | c :: u =>
        if c = slash then skipTrivia .line u
        else if c = star then skipTrivia .block u
        else b :: c :: u
    else b :: t
  | .line, b :: t => if b = 10 then skipTrivia .blank t else skipTrivia .line t
  | .block, b :: t =>
    match t with
    | [] => []
    | c :: u =>
      if b = star ∧ c = slash then skipTrivia .blank u else skipTrivia .block (c :: u)

/-! ## Lexemes -/

/-- The kind of a punctuation mark. -/
def punctuation? (b : UInt8) : Option TokenKind :=
  TokenKind.all.find? fun k => k.punctuation?.any (Text.byte · == b)

/-- Whether a byte may stand in a word. -/
def isWordByte (b : UInt8) : Bool :=
  !(isBlank b || b == slash || b == star || (punctuation? b).isSome)

/-- The kind and the text of the token at the head of a text that starts with no trivia. -/
def lexeme (table : WordTable) : Text → TokenKind × Text
  | [] => (.eof, [])
  | b :: t =>
    match punctuation? b with
    | some kind => (kind, [b])
    | none =>
      if b = slash ∨ b = star then (.unknown, [b])
      else
        let word := b :: t.takeWhile isWordByte
        (table.classify word, word)

/-- The token of a kind and a text that covers a span of a file. Its line is that of its last
byte and its column that of its first. -/
def make (file : SourceFile) (kind : TokenKind) (text : Text) (start stop : UInt32) : Token :=
  let last := if start < stop then stop - 1 else stop
  ⟨kind, text, (file.position last).line, (file.position start).column, ⟨file.id, start, stop⟩⟩

/-! ## Scanning a file -/

/-- The part of a file that is not scanned yet. -/
structure Scanner where
  file : SourceFile
  table : WordTable
  rest : Text
deriving Repr

/-- A scanner at the beginning of a file. -/
def Scanner.start (file : SourceFile) (table : WordTable) : Scanner := ⟨file, table, file.content⟩

/-- The offset of the head of a part that the file ends with. -/
def Scanner.offsetOf (s : Scanner) (rest : Text) : UInt32 :=
  (s.file.content.length - rest.length).toUInt32

/-- The next token and what is left behind it. At the end of the file this is the end token,
however often it is asked for. -/
def Scanner.next (s : Scanner) : Token × Scanner :=
  let rest := skipTrivia .blank s.rest
  let start := s.offsetOf rest
  match lexeme s.table rest with
  | (kind, []) => (make s.file kind eofText start start, { s with rest })
  | (kind, text) =>
    (make s.file kind text start (start + text.length.toUInt32),
      { s with rest := rest.drop text.length })

/-- The tokens before the end token, at most as many as the fuel allows, and the end token. -/
def Scanner.tokens (s : Scanner) : (fuel : Nat) → List Token × Token
  | 0 => ([], s.next.1)
  | fuel + 1 =>
    let (token, s) := s.next
    if token.kind = .eof then ([], token)
    else
      let (rest, eof) := s.tokens fuel
      (token :: rest, eof)

end Token

/-- The tokens of a file before the end token, and the end token. Every token covers a byte of
its own, so there are no more tokens than bytes. -/
def SourceFile.tokens (file : SourceFile) (table : WordTable) : List Token × Token :=
  (Token.Scanner.start file table).tokens file.content.length

/-- The tokens of a file that a cursor can walk over. -/
def SourceFile.tokens? (file : SourceFile) (table : WordTable) : Option (List Token × Token) :=
  (Cursor.start? file).map fun _ => file.tokens table

/-! ## Lookahead -/

/-- A token stream with one token of lookahead. -/
structure TokenStream where
  scanner : Token.Scanner
  /-- The token that was looked at and not taken yet. -/
  ahead : Option Token
  /-- The text of the token scanned last. -/
  lastText : Text
  /-- The line of the token scanned last. -/
  lastLine : UInt32
deriving Repr

namespace TokenStream

/-- The stream of a file, before its first token. -/
def start (file : SourceFile) (table : WordTable) : TokenStream :=
  ⟨.start file table, none, [], 1⟩

/-- Scans one token. -/
def scan (s : TokenStream) : Token × TokenStream :=
  let (token, scanner) := s.scanner.next
  (token, { s with scanner, lastText := token.text, lastLine := token.line })

/-- Takes the next token. -/
def next (s : TokenStream) : Token × TokenStream :=
  match s.ahead with
  | some token => (token, { s with ahead := none })
  | none => s.scan

/-- Looks at the next token without taking it. -/
def peek (s : TokenStream) : Token × TokenStream :=
  match s.ahead with
  | some token => (token, s)
  | none =>
    let (token, s) := s.scan
    (token, { s with ahead := some token })

/-- Takes the next token if it is of the given kind. -/
def accept (s : TokenStream) (kind : TokenKind) : Bool × TokenStream :=
  let (token, s) := s.peek
  if token.kind = kind then (true, s.next.2) else (false, s)

/-- Takes all tokens up to and with the end token, at most as many as the fuel allows. -/
def takeAll (s : TokenStream) : (fuel : Nat) → List Token × TokenStream
  | 0 => ([], s)
  | fuel + 1 =>
    let (token, s) := s.next
    if token.kind = .eof then ([token], s)
    else
      let (rest, s) := s.takeAll fuel
      (token :: rest, s)

/-- Takes all tokens up to and with the end token. -/
def drain (s : TokenStream) : List Token × TokenStream :=
  s.takeAll (s.scanner.rest.length + 2)

end TokenStream

end AdtCompiler
