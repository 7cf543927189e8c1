import AdtCompiler.Layout.DocComment
import AdtCompiler.Layout.Head
import AdtCompiler.Layout.Pen

/-!
# Writing comments

Comments are written before the part behind them. One that stood on the line of the part before
it stays there, and one on a line of its own gets one. A group right in front of a part that it
documents is written anew.
-/

namespace AdtCompiler.Layout.Pen

/-- White space that waits before a comment on the line of the part before it: how much of it is
written, and what the rest becomes. -/
def waitingBeside : (before : Nat) → List Space → Nat × List Space
  | _, [] => (0, [])
  | n, .blank :: rest =>
    let (j, rest) := waitingBeside (n + 1) rest
    (j, .nothing :: rest)
  | n, .indent :: rest =>
    let (j, rest) := waitingBeside (n + 1) rest
    (j, .indent :: rest)
  | n, rest => (n, rest)

/-- White space that waits before a comment on another line: how much of it is written, what the
rest becomes, and whether a line end was taken out. `aligned` says whether the comment starts in
the column of the part that follows it. -/
def waitingApart (aligned : Bool) : (before : Nat) → List Space → Nat × List Space × Bool
  | _, [] => (0, [], false)
  | n, s :: rest =>
    let goOn (s : Space) : Nat × List Space × Bool :=
      let (j, rest, dropped) := waitingApart aligned (n + 1) rest
      (j, s :: rest, dropped)
    match s with
    | .blank => goOn .nothing
    | .indent => goOn .indent
    | .unindent =>
      if rest.head? = some .unindent ∨ aligned then goOn .unindent else (n, s :: rest, false)
    | .newline | .formfeed => (n, .nothing :: rest, true)
    | .nothing => (n, s :: rest, false)

/-- Writes what comes before a comment that stood at a place; `next` is where the part behind it
stood, and `previous` is the comment before it, if there is one since the latest part. -/
def writeBefore (p : Pen) (place next : Place) (previous : Option Comment) : Pen :=
  if p.written.isEmpty then p
  else if place.line = p.latestPlace.line ∧ !previous.any (·.isLine) then
    let p :=
      if previous.isSome then p
      else
        let (n, waiting) := waitingBeside 0 p.waiting
        { p with waiting := waiting }.writeWaiting n
    p.writeByte (if place.line = next.line then 32 else 9) 1
  else
    let (n, waiting, dropped) := waitingApart (place.column == next.column) 0 p.waiting
    let p := { p with waiting := waiting }.writeWaiting n
    let n := place.line - p.latestPlace.line
    let n := if p.depth = 0 ∧ dropped ∧ previous.isNone then n + 1 else n
    let n := if n = 0 ∧ previous.any (·.isLine) then 1 else n
    if 0 < n then p.writeByte 12 (min 2 n) else p

/-- Writes the lines of a block comment behind its first. -/
def writeLines (p : Pen) (lines : List Text) : Pen :=
  lines.foldl (fun p line =>
    let p := p.writeByte 12 1
    if line.isEmpty then p else p.writeText p.place (Text.trimRight line) true) p

/-- Writes a comment. -/
def writeComment (p : Pen) (c : Comment) : Pen :=
  let place := p.placeOf c.start
  if c.isLine then
    let depth := p.depth
    let p :=
      if ("//line " : Text).isPrefixOf c.text ∧ place.column = 1 then { p with depth := 0 } else p
    let here := p.written.length
    let p :=
      if (Constraint.newText? c.text).isSome then
        { p with builds := { p.builds with newer := p.builds.newer ++ [here] } }
      else if (Constraint.oldText? c.text).isSome then
        { p with builds := { p.builds with older := p.builds.older ++ [here] } }
      else p
    { p.writeText place (Text.trimRight c.text) true with depth := depth }
  else
    match blockLines (place.column == 1 && 0 < p.depth) c.text with
    | [] => p
    | first :: rest =>
      (if first.isEmpty then p else p.writeText place (Text.trimRight first) true).writeLines rest

/-- What becomes of the white space that waits behind comments. If a line end is needed, exactly
one stays. Gives also whether one is needed still, whether one stayed, and whether one that ends
columns was taken out. -/
def waitingBehind : (needed : Bool) → List Space → List Space × Bool × Bool × Bool
  | needed, [] => ([], needed, false, false)
  | needed, s :: rest =>
    if s.isBreak then
      if needed then
        let (rest, needed, _, dropped) := waitingBehind false rest
        (s :: rest, needed, true, dropped)
      else
        let (rest, needed, stayed, dropped) := waitingBehind needed rest
        (.nothing :: rest, needed, stayed, dropped || s == .formfeed)
    else
      let (rest, needed, stayed, dropped) := waitingBehind needed rest
      ((if s = .blank then .nothing else s) :: rest, needed, stayed, dropped)

/-- What writing comments tells about the line ends behind them. -/
structure Trail where
  pen : Pen
  /-- Whether a line end was written. -/
  ended : Bool := false
  /-- Whether a line end that ends columns was left out. -/
  dropped : Bool := false

/-- Writes what comes behind comments. -/
def writeBehind (p : Pen) (needed : Bool) : Trail :=
  let (waiting, needed, stayed, dropped) := waitingBehind needed p.waiting
  let p := { p with waiting := waiting }.writeWaiting waiting.length
  if needed then ⟨p.writeByte 10 1, true, dropped⟩ else ⟨p, stayed, dropped⟩

/-- Whether a line ends in a group of comments or behind it. -/
def hasBreak (p : Pen) (g : CommentGroup) : Bool :=
  (g.any fun c => c.isLine || c.text.contains 10) ||
    g.any fun c => p.lines.line c.start != p.lines.line g.start

/-- Whether a group of comments is to be written before a part that stood at a place. -/
def isBefore (p : Pen) (next : Place) (g : CommentGroup) : Bool :=
  g.start < next.offset && (!p.wouldEnd || !p.hasBreak g)

/-- Whether a group of comments documents a part that stood at a place. -/
def documents (p : Pen) (next : Place) (piece : Piece) (g : CommentGroup) : Bool :=
  piece != .importWord && (p.placeOf g.start).column == 1 && p.placeOf (g.stop + 1) == next

/-- A group that documents a part, written anew; all of its new comments start where the group
does. -/
def refreshed (g : CommentGroup) : CommentGroup :=
  match documentation? (g.map (·.text)) with
  | none => g
  | some texts => texts.map fun t => ⟨g.start, t⟩

/-- Writes the comments of a group one after another. -/
def writeGroup (p : Pen) (next : Place) (previous : Option Comment) (g : CommentGroup) : Pen :=
  (g.foldl (fun (p, previous) c =>
    ((p.writeBefore (p.placeOf c.start) next previous).writeComment c, some c)) (p, previous)).1

/-- Writes what separates comments from the part behind them. -/
def separate (p : Pen) (next : Place) (piece : Piece) (last : Comment) : Trail :=
  let beside := !last.isLine && p.lines.line last.start == next.line &&
    (piece != .closing || p.opened)
  if beside then
    if p.waiting.any (·.isBreak) then p.writeBehind true else (p.writeByte 32 1).writeBehind false
  else p.writeBehind last.isLine

/-- Writes groups of comments before a part that stood at a place, as far as they belong there. -/
def writeComments (next : Place) (piece : Piece) :
    (previous : Option Comment) → List CommentGroup → Pen → Trail
  | previous, [], p => finish previous { p with comments := [] }
  | previous, g :: rest, p =>
    if !p.isBefore next g then finish previous { p with comments := g :: rest }
    else if p.documents next piece g then
      match refreshed g with
      | [] =>
        let p := p.writeBefore (p.placeOf g.start) next previous
        { p with place := next, latestPlace := next, comments := rest }.writeBehind false
      | written =>
        let p := p.writeGroup next previous written
        let place := p.placeOf g.stop
        writeComments next piece g.getLast? rest { p with place := place, latestPlace := place }
    else writeComments next piece g.getLast? rest (p.writeGroup next previous g)
where
  /-- Ends the comments. -/
  finish (previous : Option Comment) (p : Pen) : Trail :=
    match previous with
    | none => ⟨p.writeWaiting p.waiting.length, false, false⟩
    | some last => p.separate next piece last

end AdtCompiler.Layout.Pen
