import AdtCompiler.Layout.BuildLines
import AdtCompiler.Layout.Comment
import AdtCompiler.Layout.Lines

/-!
# Pens

A pen writes the parts of a head one after another, with the comments between them. It knows
where in the old text the next part stood, so that comments come out where they belong and an
empty line stays one. White space waits until the next part is known, since comments may have to
go before it.
-/

namespace AdtCompiler.Layout

/-- White space that is still to be written. -/
inductive Space where
  /-- What has been taken back. -/
  | nothing
  | blank
  | newline
  /-- A line end that ends columns too. -/
  | formfeed
  | indent
  | unindent
deriving Repr, DecidableEq

/-- Whether white space ends a line. -/
def Space.isBreak : Space → Bool
  | .newline | .formfeed => true
  | _ => false

/-- A part of a head to be written. -/
inductive Piece where
  | packageWord
  | importWord
  | declWord
  | name (text : Text)
  | path (text : Text)
  | opening
  | closing
deriving Repr, DecidableEq

namespace Piece

/-- How a part is written. -/
def text : Piece → Text
  | .packageWord => "package"
  | .importWord => "import"
  | .declWord => "type"
  | .name t => t
  | .path t => t
  | .opening => "("
  | .closing => ")"

/-- Whether a statement ends where a line ends behind the part. -/
def canEnd : Piece → Bool
  | .name _ | .path _ | .closing => true
  | _ => false

/-- Whether the text of the part is protected. -/
def isProtected : Piece → Bool
  | .path _ => true
  | _ => false

end Piece

/-- A pen. -/
structure Pen where
  /-- The lines of the old text. -/
  lines : LineTable
  /-- The comments that are still to be written. -/
  comments : List CommentGroup
  /-- Where in the old text the pen is. -/
  place : Place := ⟨0, 1, 1⟩
  /-- Where it was behind the latest text. -/
  latestPlace : Place := ⟨0, 0, 0⟩
  /-- The line of the new text. -/
  line : Nat := 1
  /-- The column of the new text. -/
  column : Nat := 1
  /-- The line of the new text at the latest part. -/
  partLine : Nat := 1
  waiting : List Space := []
  depth : Nat := 0
  /-- Whether a line end would end a statement here. -/
  wouldEnd : Bool := false
  /-- Whether a text with line ends inside was written, so that columns end at the next one. -/
  columnsEnd : Bool := false
  /-- The latest part, unless white space came behind it. -/
  latest : Option Piece := none
  /-- Whether the part before was an opening bracket. -/
  opened : Bool := false
  /-- The lines with build constraints. -/
  builds : BuildLines := {}
  /-- The new text, marked and backwards. -/
  written : Text := []

namespace Pen

/-- The place of an offset in the old text. -/
def placeOf (p : Pen) (offset : Nat) : Place := p.lines.place offset

/-! ## Bytes and texts -/

/-- Writes the indentation of a line. -/
def writeIndent (p : Pen) : Pen :=
  { p with written := List.replicate p.depth 9 ++ p.written,
           place := { p.place with offset := p.place.offset + p.depth,
                                   column := p.place.column + p.depth },
           column := p.column + p.depth }

/-- Writes a byte of white space a number of times. -/
def writeByte (p : Pen) (b : UInt8) (n : Nat) : Pen :=
  let (b, p) : UInt8 × Pen :=
    if !p.columnsEnd then (b, p)
    else if b = 9 then (32, p)
    else if isLineEnd b then (12, { p with columnsEnd := false })
    else (b, p)
  let p := if p.column = 1 then p.writeIndent else p
  let p := { p with written := List.replicate n b ++ p.written }
  if isLineEnd b then
    { p with place := ⟨p.place.offset + n, p.place.line + n, 1⟩, line := p.line + n, column := 1 }
  else
    { p with place := { p.place with offset := p.place.offset + n, column := p.place.column + n },
             column := p.column + n }

/-- Writes a text that stood at a place. -/
def writeText (p : Pen) (place : Place) (t : Text) (isProtected : Bool) : Pen :=
  let p := if p.column = 1 then p.writeIndent else p
  let breaks := t.countP isLineEnd
  let tail := (t.reverse.takeWhile (!isLineEnd ·)).length + 1
  let marked := if isProtected then mark :: t ++ [mark] else t
  let place : Place :=
    if 0 < breaks then ⟨place.offset + t.length, place.line + breaks, tail⟩
    else ⟨place.offset + t.length, place.line, place.column + t.length⟩
  { p with written := marked.reverse ++ p.written,
           place := place, latestPlace := place,
           line := p.line + breaks,
           column := if 0 < breaks then tail else p.column + t.length,
           columnsEnd := p.columnsEnd || 0 < breaks }

/-! ## White space -/

/-- Writes a piece of white space. -/
def writeSpace (p : Pen) : Space → Pen
  | .nothing => p
  | .blank => p.writeByte 32 1
  | .newline => p.writeByte 10 1
  | .formfeed => p.writeByte 12 1
  | .indent => { p with depth := p.depth + 1 }
  | .unindent => { p with depth := p.depth - 1 }

/-- White space in which a line ends behind the decreases of the indentation that follow its end.
A line end that is held back is given. -/
def settleBreaks : (held : Option Space) → List Space → List Space
  | none, [] => []
  | some s, [] => [s]
  | some _, .unindent :: rest => .unindent :: settleBreaks (some .formfeed) rest
  | held, s :: rest =>
    held.toList ++ if s.isBreak then settleBreaks (some s) rest else s :: settleBreaks none rest

/-- Writes the first pieces of the white space that waits. -/
def writeWaiting (p : Pen) (n : Nat) : Pen :=
  let rest := p.waiting.drop n
  let p := (settleBreaks none (p.waiting.take n)).foldl writeSpace p
  { p with waiting := rest }

/-- Notes whether the latest part was an opening bracket. White space leaves that as it was. -/
def noteOpening (p : Pen) : Pen :=
  match p.latest with
  | none => p
  | some piece => { p with opened := piece == .opening }

/-- Lets white space wait. -/
def add (p : Pen) (s : Space) : Pen :=
  let p := p.noteOpening
  { p with waiting := p.waiting ++ [s], wouldEnd := p.wouldEnd && !s.isBreak, latest := none }

/-- Lets line ends wait, so that the next part comes on another line: at least `least` of them,
and two where an empty line stood before the line. A new section ends columns. -/
def breakLine (p : Pen) (line least : Nat) (newSection : Bool) : Pen :=
  let n := max (min 2 (line - p.place.line)) least
  if newSection then
    (List.replicate (n - 1) Space.newline).foldl add (p.add .formfeed)
  else (List.replicate n Space.newline).foldl add p

end Pen

end AdtCompiler.Layout
