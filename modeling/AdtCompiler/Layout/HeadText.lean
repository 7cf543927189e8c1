import AdtCompiler.Layout.ImportGroup
import AdtCompiler.Layout.Imports
import AdtCompiler.Layout.PenComment

/-!
# The layout of heads

A head is written part by part: the package, the declarations of imports, and the keyword of the
first declaration.
-/

namespace AdtCompiler.Layout

namespace Pen

/-- Goes to an offset of the old text. -/
def goTo (p : Pen) (offset : Nat) : Pen := { p with place := p.placeOf offset }

/-- Goes to an offset of the old text, if there is one. -/
def goTo? (p : Pen) : Option Nat → Pen
  | none => p
  | some offset => p.goTo offset

/-- Writes a part. -/
def put (p : Pen) (piece : Piece) : Pen :=
  let next := p.place
  let p := { p.noteOpening with latest := some piece }
  let trail := writeComments next piece none p.comments p
  let p := trail.pen
  let n := min 2 (next.line - p.place.line)
  let n := if trail.ended ∧ n = 2 then 1 else n
  let breaks := !p.wouldEnd && 0 < n
  let p := if breaks then p.writeByte (if trail.dropped then 12 else 10) n else p
  let line := p.line
  { p.writeText next piece.text piece.isProtected with
      wouldEnd := piece.canEnd && !breaks, partLine := line }

/-- Writes an import. Gives also the line on which it starts. -/
def putSpec (p : Pen) (s : ImportSpec) : Pen × Nat :=
  let path := Piece.path (pathSpelling s.path)
  match s.name with
  | none =>
    let p := (p.goTo s.pathStart).put path
    (p.goTo? s.ending, p.partLine)
  | some (start, name) =>
    let p := (p.goTo start).put (.name name)
    let line := p.partLine
    ((((p.add .blank).goTo s.pathStart).put path).goTo? s.ending, line)

/-- Writes imports on lines of their own; `line` is the line on which the one before starts. -/
def putSpecs (p : Pen) (line : Option Nat) : List ImportSpec → Pen
  | [] => p
  | s :: rest =>
    let p :=
      match line with
      | none => p
      | some line => p.breakLine (p.lines.line s.start) 1 (line < p.line)
    let (p, line) := p.putSpec s
    p.putSpecs (some line) rest

/-- Writes a declaration of imports. -/
def putDecl (p : Pen) (d : ImportDecl) : Pen :=
  let p := ((p.goTo d.start).put .importWord).add .blank
  match d.opens, d.specs with
  | none, [s] => (p.putSpec s).1
  | _, specs =>
    let p := (p.goTo? d.opens).put .opening
    let p :=
      if specs.isEmpty then p
      else ((((p.add .indent).add .formfeed).putSpecs none specs).add .unindent).add .formfeed
    (p.goTo? d.closes).put .closing

/-- Writes declarations of imports. -/
def putDecls (p : Pen) (isFirst : Bool) : List ImportDecl → Pen
  | [] => p
  | d :: rest =>
    let least := if isFirst ∨ d.documented then 2 else 1
    ((p.breakLine (p.lines.line d.start) least false).putDecl d).putDecls false rest

end Pen

/-- The layout of a head. -/
def Head.text (h : Head) : Text :=
  let p : Pen := { lines := h.lines, comments := h.comments }
  let p := ((p.goTo h.packageStart).put .packageWord).add .blank
  let p := (p.goTo h.name.1).put (.name h.name.2)
  let p := (p.putDecls true h.imports).breakLine (h.lines.line h.declStart) 2 false
  let p := (p.goTo h.declStart).put .declWord
  alignColumns (p.builds.gather p.written.reverse)

/-- A head in its layout, if it can be read. It is laid out twice, since the first time moves
imports and what is written then is sorted once more. -/
def layOutHead? (t : Text) : Option Text := do
  let first ← Head.read? t
  let first := first.gatherImports.sortGrouped
  let second ← Head.read? (spaceGroups first.groupChanges first.text)
  return second.sortPlain.text

end AdtCompiler.Layout
