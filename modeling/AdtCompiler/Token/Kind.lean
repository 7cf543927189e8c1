import AdtCompiler.Text.Basic

/-!
# Kinds of tokens

The kinds of tokens of a description, their names in listings, and how messages describe them.
-/

namespace AdtCompiler

/-- The kind of a token. `unlisted` stands for any code without a kind. -/
inductive TokenKind where
  | unknown
  | eof
  | ident
  | dottedIdent
  | kwPackage
  | kwImport
  | kwBoolean
  | kwByte
  | kwChar
  | kwDouble
  | kwFloat
  | kwInt
  | kwLong
  | kwShort
  | reserved
  | lAngle
  | rAngle
  | equals
  | lParen
  | rParen
  | comma
  | bar
  | lBracket
  | rBracket
  | unlisted
deriving Repr, DecidableEq, Inhabited

namespace TokenKind

/-- The kinds in the order of their codes. -/
def all : List TokenKind :=
  [unknown, eof, ident, dottedIdent, kwPackage, kwImport, kwBoolean, kwByte, kwChar, kwDouble,
    kwFloat, kwInt, kwLong, kwShort, reserved, lAngle, rAngle, equals, lParen, rParen, comma, bar,
    lBracket, rBracket]

/-- The kind of a code. -/
def ofCode (n : Nat) : TokenKind := all[n]?.getD unlisted

/-- The name of a kind in listings. -/
def name : TokenKind → String
  | unknown => "Unknown"
  | eof => "EOF"
  | ident => "Ident"
  | dottedIdent => "DottedIdent"
  | kwPackage => "KwPackage"
  | kwImport => "KwImport"
  | kwBoolean => "KwBoolean"
  | kwByte => "KwByte"
  | kwChar => "KwChar"
  | kwDouble => "KwDouble"
  | kwFloat => "KwFloat"
  | kwInt => "KwInt"
  | kwLong => "KwLong"
  | kwShort => "KwShort"
  | reserved => "Reserved"
  | lAngle => "LAngle"
  | rAngle => "RAngle"
  | equals => "Equals"
  | lParen => "LParen"
  | rParen => "RParen"
  | comma => "Comma"
  | bar => "Bar"
  | lBracket => "LBracket"
  | rBracket => "RBracket"
  | unlisted => "Kind(?)"

/-- The kind with a name in listings. -/
def ofName? (name : String) : Option TokenKind := all.find? (·.name == name)

/-- Whether the kind is a primitive type. -/
def isPrimitive : TokenKind → Bool
  | kwBoolean | kwByte | kwChar | kwDouble | kwFloat | kwInt | kwLong | kwShort => true
  | _ => false

/-- The byte of a punctuation mark. -/
def punctuation? : TokenKind → Option Char
  | lAngle => some '<'
  | rAngle => some '>'
  | equals => some '='
  | lParen => some '('
  | rParen => some ')'
  | comma => some ','
  | bar => some '|'
  | lBracket => some '['
  | rBracket => some ']'
  | _ => none

/-- Whether the kind is a punctuation mark. -/
def isPunctuation (k : TokenKind) : Bool := k.punctuation?.isSome

/-- How messages describe the kind. -/
def describe (k : TokenKind) : Text :=
  match k.punctuation? with
  | some c => "'" ++ [Text.byte c] ++ "'"
  | none =>
    match k with
    | eof => "end of input"
    | ident => "an identifier"
    | dottedIdent => "a dotted identifier"
    | kwPackage => "'package'"
    | kwImport => "'import'"
    | reserved => "a reserved word"
    | _ => if k.isPrimitive then "a primitive type" else "an unrecognized token"

end TokenKind

end AdtCompiler
