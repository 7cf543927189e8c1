import AdtCompiler.Format.Yaml.Plain
import AdtCompiler.Text.Base64
import AdtCompiler.Text.Utf8

/-!
# YAML texts

Documents of texts, lists and mappings, written in block style: a member of a mapping stands on
a line of its own, and an item of a list stands behind a dash. A text is written plain where
that reads back as the same text, and in single or double quotes or as a block of lines
otherwise.
-/

namespace AdtCompiler.Format

/-- A YAML document. The members of a mapping keep their order. -/
inductive Yaml where
  | str (value : Text)
  | seq (items : List Yaml)
  | map (members : List (String × Yaml))
deriving Inhabited

namespace Yaml

open AdtCompiler.Text (byte)

/-! ## Characters -/

/-- Whether a character breaks a line. -/
def isBreak (c : Nat) : Bool := c == 0x0A || c == 0x0D || c == 0x85 || c == 0x2028 || c == 0x2029

/-- Whether a character may stand in the document as it is, tabs apart. Characters beyond the
first 65536 may not. -/
def isShown (c : Nat) : Bool :=
  c == 0x0A || (0x20 ≤ c && c ≤ 0x7E) || (0xA0 ≤ c && c ≤ 0xFFFD && c != 0xFEFF)

/-- Characters that mean something at the head of a plain text. -/
def headMarks : Text := "#,[]\x7b\x7d&*!|>'\"%@`"

/-- The characters of a text that is UTF-8. -/
def codes (t : Text) : List Nat := t.runes.map Text.Rune.code

/-! ## Which styles a text allows -/

/-- A character of a text with the one before it and the one behind it. -/
structure Neighbours where
  before : Option Nat
  self : Nat
  behind : Option Nat

/-- The characters of a text with their neighbours. -/
def neighbours (before : Option Nat) : List Nat → List Neighbours
  | [] => []
  | c :: rest => ⟨before, c, rest.head?⟩ :: neighbours (some c) rest

/-- Whether a character is a blank or a tab. -/
def isBlank (c : Nat) : Bool := c == 0x20 || c == 0x09

/-- Whether a blank, a tab or the end follows. -/
def Neighbours.isBeforeBlank (n : Neighbours) : Bool :=
  match n.behind with
  | none => true
  | some c => isBlank c

/-- Whether a character makes a plain text mean something else: a mark at its head, a colon
before a blank, or a number sign behind one. -/
def Neighbours.isIndicator (n : Neighbours) : Bool :=
  match n.before with
  | none =>
    (headMarks.any fun b => b.toNat == n.self) ||
      ((n.self == 0x3F || n.self == 0x3A || n.self == 0x2D) && n.isBeforeBlank)
  | some before =>
    (n.self == 0x3A && n.isBeforeBlank) ||
      (n.self == 0x23 && (isBlank before || isBreak before || before == 0))

/-- Whether a blank stands right before a line break. -/
def Neighbours.isBlankBeforeBreak (n : Neighbours) : Bool :=
  n.self == 0x20 && n.behind.any isBreak

/-- Whether a blank stands right behind a line break. -/
def Neighbours.isBlankBehindBreak (n : Neighbours) : Bool :=
  n.self == 0x20 && n.before.any isBreak

/-- Whether a character can only be shown by an escape. -/
def needsEscape (c : Nat) : Bool := c != 0x09 && !isShown c

/-- Whether a text can stand without quotes, as far as its characters go. -/
def allowsPlain (t : Text) : Bool :=
  let cs := codes t
  let all := neighbours none cs
  !("---" : Text).isPrefixOf t && !("..." : Text).isPrefixOf t &&
    !(cs.head?.any fun c => c == 0x20 || isBreak c) &&
    !(cs.getLast?.any fun c => c == 0x20 || isBreak c) &&
    !(cs.any fun c => needsEscape c || c == 0x09 || isBreak c) &&
    !all.any Neighbours.isIndicator

/-- Whether a text can stand in single quotes. -/
def allowsSingle (t : Text) : Bool :=
  let cs := codes t
  let all := neighbours none cs
  !(cs.any fun c => needsEscape c || c == 0x09) &&
    !all.any Neighbours.isBlankBeforeBreak && !all.any Neighbours.isBlankBehindBreak

/-- Whether a text can stand as a block of lines. -/
def allowsBlock (t : Text) : Bool :=
  let cs := codes t
  let all := neighbours none cs
  !(cs.getLast?.any fun c => c == 0x20) && !cs.any needsEscape &&
    !all.any Neighbours.isBlankBeforeBreak

/-! ## Writing a text -/

/-- Blanks of an indentation. -/
def blanks (n : Nat) : Text := List.replicate n 32

/-- The characters between single quotes: quotes are doubled, and a line break is followed by
the indentation. -/
def singleBody (indent : Nat) : (broken : Bool) → List Nat → Text
  | _, [] => []
  | broken, c :: rest =>
    if isBreak c then Text.ofCode c ++ singleBody indent true rest
    else
      (if broken then blanks indent else []) ++
        (if c = 0x27 then [0x27, 0x27] else Text.ofCode c) ++ singleBody indent false rest

/-- The letter of a short escape. -/
def escapeLetter? (c : Nat) : Option Char :=
  match c with
  | 0x00 => some '0'
  | 0x07 => some 'a'
  | 0x08 => some 'b'
  | 0x09 => some 't'
  | 0x0A => some 'n'
  | 0x0B => some 'v'
  | 0x0C => some 'f'
  | 0x0D => some 'r'
  | 0x1B => some 'e'
  | 0x22 => some '"'
  | 0x5C => some '\\'
  | 0x85 => some 'N'
  | 0xA0 => some '_'
  | 0x2028 => some 'L'
  | 0x2029 => some 'P'
  | _ => none

/-- A lower-case ASCII letter in upper case. -/
def upperByte (b : UInt8) : UInt8 := if 97 ≤ b ∧ b ≤ 122 then b - 32 else b

/-- The escape of a character. -/
def escape (c : Nat) : Text :=
  match escapeLetter? c with
  | some letter => [byte '\\', byte letter]
  | none =>
    if c ≤ 0xFF then "\\x" ++ (Text.hexFixed 2 c).map upperByte
    else if c ≤ 0xFFFF then "\\u" ++ (Text.hexFixed 4 c).map upperByte
    else "\\U" ++ (Text.hexFixed 8 c).map upperByte

/-- A text in double quotes. In a text that starts with a byte order mark every character is
escaped, so that no reader takes the mark away. -/
def doubleQuoted (t : Text) : Text :=
  let cs := codes t
  let marked := cs.head? == some 0xFEFF
  let shown (c : Nat) : Text :=
    if marked || !isShown c || isBreak c || c == 0x22 || c == 0x5C then escape c
    else Text.ofCode c
  "\"" ++ cs.flatMap shown ++ "\""

/-- The lines of a block: each starts with the indentation, and the first one on a new line
unless the text starts with a line break of its own. -/
def blockBody (indent : Nat) : (open_ : Text) → List Nat → Text
  | _, [] => []
  | open_, c :: rest =>
    if isBreak c then Text.ofCode c ++ blockBody indent (blanks indent) rest
    else open_ ++ Text.ofCode c ++ blockBody indent [] rest

/-- Whether the line breaks at the end of a text have to be kept by a mark: it ends in two of
them, or consists of one. -/
def keepsBreaks (t : Text) : Bool :=
  match (codes t).reverse with
  | last :: before :: _ => isBreak last && isBreak before
  | [only] => isBreak only
  | [] => false

/-- The marks behind the bar of a block: the width of the indentation if the text starts with a
blank or a line break, and what becomes of the line breaks at its end. -/
def blockMarks (t : Text) : Text :=
  let cs := codes t
  (if cs.head?.any fun c => c == 0x20 || isBreak c then "2" else "") ++
    (if !cs.getLast?.any isBreak then "-" else if keepsBreaks t then "+" else "")

/-- What has been written, and whether its last line is still open. -/
structure Written where
  text : Text
  isOpen : Bool

/-- A text on an open line. -/
def Written.line (t : Text) : Written := ⟨t, true⟩

/-- A text as a block of lines. -/
def block (indent : Nat) (t : Text) : Written :=
  ⟨"|" ++ blockMarks t ++ blockBody indent (byte '\n' :: blanks indent) (codes t),
    !((codes t).getLast?.any isBreak)⟩

/-- The lines of a base64 text: seventy characters each, and a single line without an end. -/
def base64Lines : (fuel : Nat) → Text → Text
  | 0, _ => []
  | fuel + 1, t =>
    if t.isEmpty then [] else t.take 70 ++ [byte '\n'] ++ base64Lines fuel (t.drop 70)

/-- Writes a text whose further lines are indented. What is not UTF-8 is written in base64, with
a tag that says so. -/
def scalar (indent : Nat) (t : Text) : Written :=
  if !t.isUtf8 then
    let encoded := t.base64
    if encoded.length < 70 then .line ("!!binary " ++ encoded)
    else
      let lines := block indent (base64Lines encoded.length encoded)
      { lines with text := "!!binary " ++ lines.text }
  else if t.contains (byte '\n') then
    if allowsBlock t then block indent t else .line (doubleQuoted t)
  else if readsAsText t then
    if allowsPlain t then .line t
    else if allowsSingle t then .line ("'" ++ singleBody indent false (codes t) ++ "'")
    else .line (doubleQuoted t)
  else .line (doubleQuoted t)

/-! ## Writing a document -/

/-- What is written next, on a line of its own with the indentation. -/
def Written.thenLine (w : Written) (indent : Nat) (next : Written) : Written :=
  { next with text := w.text ++ (if w.isOpen then "\n" else "") ++ blanks indent ++ next.text }

/-- What is written next, on the same line. -/
def Written.thenSame (t : Text) (next : Written) : Written := { next with text := t ++ next.text }

mutual

/-- The value of a member, behind its colon, or of an item, behind its dash. The indentation is
that of the mapping or list it belongs to. -/
def render (indent : Nat) : Yaml → Written
  | str t => .thenSame " " (scalar (indent + 2) t)
  | seq [] => .line " []"
  | seq (item :: rest) =>
    renderItems (indent + 2)
      ((Written.line []).thenLine (indent + 2) (.thenSame "-" (renderItem (indent + 2) item))) rest
  | map [] => .line " \x7b\x7d"
  | map ((name, value) :: rest) =>
    renderMembers (indent + 2)
      ((Written.line []).thenLine (indent + 2)
        (.thenSame (name ++ ":") (render (indent + 2) value)))
      rest

/-- An item of a list, behind its dash. -/
def renderItem (indent : Nat) : Yaml → Written
  | map ((name, value) :: rest) =>
    renderMembers (indent + 2)
      (.thenSame (" " ++ name ++ ":") (render (indent + 2) value)) rest
  | seq (item :: rest) =>
    renderItems (indent + 2) (.thenSame " -" (renderItem (indent + 2) item)) rest
  | str t => .thenSame " " (scalar (indent + 2) t)
  | seq [] => .line " []"
  | map [] => .line " \x7b\x7d"

/-- The items of a list behind what is written already. -/
def renderItems (indent : Nat) (written : Written) : List Yaml → Written
  | [] => written
  | item :: rest =>
    renderItems indent (written.thenLine indent (.thenSame "-" (renderItem indent item))) rest

/-- The members of a mapping behind what is written already. -/
def renderMembers (indent : Nat) (written : Written) : List (String × Yaml) → Written
  | [] => written
  | (name, value) :: rest =>
    renderMembers indent
      (written.thenLine indent (.thenSame (name ++ ":") (render indent value))) rest

end

/-- The text of a document whose top is a mapping. -/
def text (members : List (String × Yaml)) : Text :=
  match members with
  | [] => "\x7b\x7d\n"
  | (name, value) :: rest =>
    let written := renderMembers 0 (.thenSame (name ++ ":") (render 0 value)) rest
    written.text ++ (if written.isOpen then "\n" else "")

end Yaml

end AdtCompiler.Format
