import AdtCompiler.Backend.GoName
import AdtCompiler.Layout.Comment
import AdtCompiler.Layout.ImportPath
import AdtCompiler.Layout.Lines

/-!
# The parts of the head of a unit

The head of a unit holds words, strings, round brackets, dots and comments. A statement ends at
a semicolon, or at the end of a line whose last part can end one.
-/

namespace AdtCompiler.Layout

/-- What a part of the head is. -/
inductive Sign where
  | word
  | string
  | opening
  | closing
  | dot
  /-- The end of a statement, and whether a semicolon stands for it. -/
  | stop (written : Bool)
deriving Repr, DecidableEq

/-- A part of the head with its place. -/
inductive Lexeme where
  | comment (c : Comment)
  | token (sign : Sign) (start : Nat) (text : Text)
  /-- A number for the line of an offset. -/
  | mark (offset line : Nat)
deriving Repr, DecidableEq

/-! ## Marks of lines -/

/-- The greatest number of a line or a column that a mark may give. -/
def maxMark : Nat := Nat.pow 2 30

/-- What stands before and behind the last colon. -/
def cutLastColon? (t : Text) : Option (Text × Text) :=
  match (Text.splitOn (Text.byte ':') t).reverse with
  | last :: before :: more => some (Text.join ":" (before :: more).reverse, last)
  | _ => none

/-- The number that a comment gives for the next line: none, a line, or a line and a column. A
comment that gives something else is not in order. -/
def markedLine? (t : Text) : Option (Option Nat) :=
  let isFair (n : Nat) : Bool := 0 < n && n ≤ maxMark
  match cutLastColon? t with
  | none => some none
  | some (before, number) =>
    match Text.toNat? number, (cutLastColon? before).bind fun (_, line) => Text.toNat? line with
    | none, _ => none
    | some n, none => if isFair n then some (some n) else none
    | some n, some line => if isFair line ∧ isFair n then some (some line) else none

/-- The mark in a comment, if it can hold one; it holds from an offset on. -/
def markIn? (isPlaced : Bool) (offset : Nat) (comment inside : Text) : Option (List Lexeme) :=
  if !isPlaced ∨ !("line " : Text).isPrefixOf (comment.drop 2) then some []
  else (markedLine? (inside.drop 5)).map fun line => line.toList.map (Lexeme.mark offset)

/-! ## Reading -/

/-- Whether a byte may stand in a word; which words are names is asked later. -/
def isWordByte (b : UInt8) : Bool :=
  Text.isDigit b || (65 ≤ b && b ≤ 90) || (97 ≤ b && b ≤ 122) || b == 0x5F || 0x80 ≤ b

/-- A line comment at the front of a text, as it is written. -/
def lineComment (t : Text) : Text := t.takeWhile (· != 10)

/-- A block comment at the front of a text, as it is written. -/
def blockComment? (t : Text) : Option Text :=
  (Text.cut? "*/" (t.drop 2)).map fun (inside, _) => "/*" ++ inside ++ "*/"

/-- A string at the front of a text, as it is written. -/
def stringLiteral? : Text → Option Text
  | 34 :: rest =>
    (quotedFrom? (rest.length + 1) rest).map fun (_, behind) =>
      34 :: rest.take (rest.length - behind.length)
  | 96 :: rest => (Text.cut? "`" rest).map fun (inside, _) => 96 :: inside ++ [96]
  | _ => none

/-- The parts of a text that starts at an offset. At the end of a line a statement ends if that
is `due`. Every step takes a byte away, so a fuel of the length is enough. -/
def lexemesFrom (lines : LineTable) :
    (fuel offset : Nat) → (due : Bool) → Text → Option (List Lexeme)
  | 0, _, _, _ => none
  | _ + 1, _, _, [] => some []
  | fuel + 1, offset, due, b :: rest =>
    let t := b :: rest
    let next (parts : List Lexeme) (size : Nat) (due : Bool) : Option (List Lexeme) :=
      (lexemesFrom lines fuel (offset + size) due (t.drop size)).map (parts ++ ·)
    let sign (s : Sign) (due : Bool) : Option (List Lexeme) := next [.token s offset [b]] 1 due
    if b = 10 ∧ due then next [.token (.stop false) offset []] 1 false
    else if b = 32 ∨ b = 9 ∨ b = 10 ∨ b = 13 then next [] 1 due
    else if ("//" : Text).isPrefixOf t then
      let comment := lineComment t
      let isPlaced := (lines.place offset).column == 1
      (markIn? isPlaced (offset + comment.length + 1) comment (dropEnd [13] (comment.drop 2))).bind
        fun marks =>
          next (.comment ⟨offset, comment.filter (· != 13)⟩ :: marks) comment.length due
    else if ("/*" : Text).isPrefixOf t then
      (blockComment? t).bind fun comment =>
        let inside := (comment.drop 2).take (comment.length - 4)
        (markIn? true (offset + comment.length) comment inside).bind fun marks =>
          let parts := .comment ⟨offset, dropReturns [] comment⟩ :: marks
          if due ∧ comment.contains 10 then
            let stop := offset + (comment.takeWhile (· != 10)).length
            next (parts ++ [.token (.stop false) stop []]) comment.length false
          else next parts comment.length due
    else if b = Text.byte ';' then sign (.stop true) false
    else if b = Text.byte '(' then sign .opening false
    else if b = Text.byte ')' then sign .closing true
    else if b = Text.byte '.' then sign .dot false
    else if b = 34 ∨ b = 96 then
      (stringLiteral? t).bind fun literal =>
        let text := if b = 96 then literal.filter (· != 13) else literal
        next [.token .string offset text] literal.length true
    else
      let word := t.takeWhile isWordByte
      if !isIdentifier word then none
      else next [.token .word offset word] word.length (!Go.keywords.contains word)

/-- Whether a text can be the text of a unit at all: UTF-8 without null characters, and without
byte order marks inside. -/
def isSourceText (t : Text) : Bool :=
  t.isUtf8 && (t.runes.all fun r => r.code != 0) && (t.runes.drop 1).all fun r => r.code != 0xFEFF

/-- The parts of a text. A byte order mark at its start is not one of them. -/
def lexemes? (lines : LineTable) (t : Text) : Option (List Lexeme) :=
  if !isSourceText t then none
  else if ([0xEF, 0xBB, 0xBF] : Text).isPrefixOf t then
    lexemesFrom lines (t.length + 1) 3 false (t.drop 3)
  else lexemesFrom lines (t.length + 1) 0 false t

end AdtCompiler.Layout
