import AdtCompiler.Syntax.Doc
import AdtCompiler.Token.Lexer

/-!
# Reading documents

A recursive-descent reader for the description language:

    Doc      := [ "package" Name ] { "import" Name } { DataType } EOF
    DataType := Ident [ "<" Ident { "," Ident } ">" ] "=" Ctor { "|" Ctor }
    Ctor     := Ident [ "(" Arg { "," Arg } ")" ]
    Arg      := Type Ident
    Type     := ( Primitive | Ident [ "<" Type { "," Type } ">" ] ) { "[" "]" }

The reader stops at the first token that fits nowhere and reports what it expected there.
-/

namespace AdtCompiler

/-! ## Syntax errors -/

/-- What the reader expected in place of a token. -/
inductive Expected where
  | packageName
  | importName
  | dataTypeName
  | paramName
  | constructorName
  | argName
  | type
  /-- One of several kinds of tokens. -/
  | oneOf (kinds : List TokenKind)
deriving Repr, DecidableEq, Inhabited

/-- What was expected, for messages. -/
def Expected.text : Expected → Text
  | packageName => "a package name"
  | importName => "an import name"
  | dataTypeName => "a data type name"
  | paramName => "a type parameter name"
  | constructorName => "a constructor name"
  | argName => "an argument name"
  | type => "a type"
  | oneOf kinds => Text.join " or " (kinds.map TokenKind.describe)

/-- The first token of a source that fits nowhere. -/
structure SyntaxError where
  source : Text
  expected : Expected
  token : Token
deriving Repr, DecidableEq, Inhabited

namespace SyntaxError

/-- How messages name the token that was found. -/
def found (e : SyntaxError) : Text :=
  match e.token.kind with
  | .eof => Token.eofText
  | .reserved => "reserved word '" ++ e.token.text ++ "'"
  | _ => "'" ++ e.token.text ++ "'"

/-- The message without the place. -/
def brief (e : SyntaxError) : Text :=
  "expected " ++ e.expected.text ++ " but found " ++ e.found

/-- The message. -/
def message (e : SyntaxError) : Text :=
  e.source ++ ":" ++ Text.decimal e.token.line.toNat ++ ": " ++ e.brief

end SyntaxError

namespace Parser

/-- Where a reader stopped: what it expected, and the tokens from the one that fits nowhere. -/
structure Stop where
  expected : Expected
  rest : List Token
deriving Repr, DecidableEq, Inhabited

/-- The kind of the next token; behind the last token it is the end. -/
def peek : List Token → TokenKind
  | [] => .eof
  | t :: _ => t.kind

/-- Takes a token of the given kind. -/
def expect (kind : TokenKind) (alternatives : List TokenKind) (tokens : List Token) :
    Except Stop (Unit × List Token) :=
  if peek tokens = kind then .ok ((), tokens.tail)
  else .error ⟨.oneOf (alternatives ++ [kind]), tokens⟩

/-- Takes an identifier. -/
def expectIdent (what : Expected) : List Token → Except Stop (Text × List Token)
  | [] => .error ⟨what, []⟩
  | t :: rest => if t.kind = .ident then .ok (t.text, rest) else .error ⟨what, t :: rest⟩

/-- Takes an identifier or a dotted identifier. -/
def expectName (what : Expected) : List Token → Except Stop (Text × List Token)
  | [] => .error ⟨what, []⟩
  | t :: rest =>
    if t.kind = .ident ∨ t.kind = .dottedIdent then .ok (t.text, rest)
    else .error ⟨what, t :: rest⟩

/-- Takes one or more items with separators between them; each item takes at least one token, so
the number of tokens is fuel enough. -/
def items (separator : TokenKind) (item : List Token → Except Stop (α × List Token)) :
    (fuel : Nat) → List Token → Except Stop (List α × List Token)
  | 0, tokens => (item tokens).map fun (a, rest) => ([a], rest)
  | fuel + 1, tokens => do
    let (first, rest) ← item tokens
    if peek rest = separator then
      let (more, rest) ← items separator item fuel rest.tail
      return (first :: more, rest)
    else return ([first], rest)

/-- Takes a list of items in brackets, if the next token opens one. -/
def enclosed (opening closing : TokenKind) (item : List Token → Except Stop (α × List Token))
    (tokens : List Token) : Except Stop (List α × List Token) :=
  if peek tokens = opening then do
    let (found, rest) ← items .comma item tokens.length tokens.tail
    let (_, rest) ← expect closing [.comma] rest
    return (found, rest)
  else .ok ([], tokens)

/-! ## Types -/

/-- The primitive type of a keyword. -/
def primitive? : TokenKind → Option Primitive
  | .kwBoolean => some .boolean
  | .kwByte => some .byte
  | .kwChar => some .char
  | .kwDouble => some .double
  | .kwFloat => some .float
  | .kwInt => some .int
  | .kwLong => some .long
  | .kwShort => some .short
  | _ => none

/-- Takes the brackets behind a type. -/
def brackets (type : Ty) : (fuel : Nat) → List Token → Except Stop (Ty × List Token)
  | 0, tokens => .ok (type, tokens)
  | fuel + 1, tokens =>
    if peek tokens = .lBracket then do
      let (_, rest) ← expect .rBracket [] tokens.tail
      brackets (.array type) fuel rest
    else .ok (type, tokens)

/-- Takes what stands before the brackets of a type, given a reader of type arguments. -/
def element (argument : List Token → Except Stop (Ty × List Token)) (tokens : List Token) :
    Except Stop (Ty × List Token) :=
  match primitive? (peek tokens) with
  | some kind => .ok (.prim kind, tokens.tail)
  | none => do
    let (name, rest) ← expectIdent .type tokens
    let (args, rest) ← enclosed .lAngle .rAngle argument rest
    return (.cls name args, rest)

/-- Takes a type. The fuel bounds the depth of type arguments, and a type takes more tokens than
it is deep. -/
def type : (fuel : Nat) → List Token → Except Stop (Ty × List Token)
  | 0, tokens => .error ⟨.type, tokens⟩
  | fuel + 1, tokens => do
    let (element, rest) ← element (type fuel) tokens
    brackets element rest.length rest

/-! ## Declarations -/

/-- Takes an argument. -/
def arg (tokens : List Token) : Except Stop (Arg × List Token) := do
  let (type, rest) ← type tokens.length tokens
  let (name, rest) ← expectIdent .argName rest
  return (⟨type, name⟩, rest)

/-- Takes a constructor. -/
def constructor (tokens : List Token) : Except Stop (Constructor × List Token) := do
  let (name, rest) ← expectIdent .constructorName tokens
  let (args, rest) ← enclosed .lParen .rParen arg rest
  return (⟨name, args⟩, rest)

/-- Takes a data type. -/
def dataType (tokens : List Token) : Except Stop (DataType × List Token) := do
  let (name, rest) ← expectIdent .dataTypeName tokens
  let (params, rest) ← enclosed .lAngle .rAngle (expectIdent .paramName) rest
  let (_, rest) ← expect .equals [] rest
  let (constructors, rest) ← items .bar constructor rest.length rest
  return (⟨name, params, constructors⟩, rest)

/-- Takes data types up to the end. -/
def dataTypes : (fuel : Nat) → List Token → Except Stop (List DataType × List Token)
  | 0, tokens => .ok ([], tokens)
  | fuel + 1, tokens =>
    if peek tokens = .eof then .ok ([], tokens)
    else do
      let (first, rest) ← dataType tokens
      let (more, rest) ← dataTypes fuel rest
      return (first :: more, rest)

/-- Takes the package clause, if there is one. -/
def package (tokens : List Token) : Except Stop (Text × List Token) :=
  if peek tokens = .kwPackage then expectName .packageName tokens.tail else .ok ([], tokens)

/-- Takes the import clauses. -/
def imports : (fuel : Nat) → List Token → Except Stop (List Text × List Token)
  | 0, tokens => .ok ([], tokens)
  | fuel + 1, tokens =>
    if peek tokens = .kwImport then do
      let (name, rest) ← expectName .importName tokens.tail
      let (more, rest) ← imports fuel rest
      return (name :: more, rest)
    else .ok ([], tokens)

/-- Takes a whole document. -/
def doc (source : Text) (tokens : List Token) : Except Stop (Doc × List Token) := do
  let (package, rest) ← package tokens
  let (imports, rest) ← imports rest.length rest
  let (types, rest) ← dataTypes rest.length rest
  return (⟨source, package, imports, types⟩, rest)

end Parser

/-- Why a file is not read as a document. -/
inductive ParseFault where
  /-- The file has more bytes than offsets can count, and so no tokens. -/
  | tooLong
  /-- A token does not fit. -/
  | misfit (error : SyntaxError)
deriving Repr, DecidableEq

/-- Reads the document that a file describes. -/
def SourceFile.parse (file : SourceFile) (table : WordTable) : Except ParseFault Doc :=
  match file.tokens? table with
  | none => .error .tooLong
  | some (tokens, eof) =>
    match Parser.doc file.path tokens with
    | .ok (doc, _) => .ok doc
    | .error stop => .error (.misfit ⟨file.path, stop.expected, stop.rest.head?.getD eof⟩)

end AdtCompiler
