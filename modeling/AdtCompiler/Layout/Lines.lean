import AdtCompiler.Text.Basic

/-!
# Lines and places

Where something stands in a text: the number of bytes before it, its line and its column. The
lines of a text are given by the offsets at which they start, so that lines can be joined without
touching the text.
-/

namespace AdtCompiler.Layout

/-- A place in a text: the bytes before it, and its line and column, both counted from one. -/
structure Place where
  offset : Nat
  line : Nat
  column : Nat
deriving Repr, DecidableEq, Inhabited

/-- The offsets at which the lines of a text start, in increasing order. -/
structure LineTable where
  starts : List Nat
deriving Repr, DecidableEq, Inhabited

namespace LineTable

/-- The offsets behind the line ends of a text that starts at an offset. -/
def startsFrom (offset : Nat) : Text → List Nat
  | [] => []
  | b :: rest =>
    if b = 10 then (offset + 1) :: startsFrom (offset + 1) rest else startsFrom (offset + 1) rest

/-- The lines of a text. -/
def ofText (t : Text) : LineTable := ⟨0 :: startsFrom 0 t⟩

/-- The place at an offset. -/
def place (table : LineTable) (offset : Nat) : Place :=
  let before := table.starts.takeWhile (· ≤ offset)
  ⟨offset, before.length, offset - before.getLast?.getD 0 + 1⟩

/-- The line of an offset. -/
def line (table : LineTable) (offset : Nat) : Nat := (table.place offset).line

/-- The number of lines. -/
def count (table : LineTable) : Nat := table.starts.length

/-- The offset at which a line starts. -/
def lineStart (table : LineTable) (line : Nat) : Nat := table.starts[line - 1]?.getD 0

/-- Joins a line with the one behind it. -/
def merge (table : LineTable) (line : Nat) : LineTable := ⟨table.starts.eraseIdx line⟩

end LineTable

/-- The numbers of lines, as marks may set them: from the offset of a mark on, lines are counted
from the number that it gives. The latest mark comes first. -/
structure LineNumbers where
  lines : LineTable
  marks : List (Nat × Nat)
deriving Repr, DecidableEq, Inhabited

/-- The number of the line of an offset. -/
def LineNumbers.line (numbers : LineNumbers) (offset : Nat) : Nat :=
  match numbers.marks.find? (·.1 ≤ offset) with
  | none => numbers.lines.line offset
  | some (start, number) => number + (numbers.lines.line offset - numbers.lines.line start)

end AdtCompiler.Layout
