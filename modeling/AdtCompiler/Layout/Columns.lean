import AdtCompiler.Text.Utf8

/-!
# Columns

A marked text is a text in which tabs end cells and line ends or form feeds end lines. Between
two marks nothing has a meaning. Cells that stand below each other on successive lines get one
width, unless a form feed comes between the lines. Blanks at the ends of lines go.
-/

namespace AdtCompiler.Layout

/-- The byte before and behind a protected text. No text in UTF-8 holds it. -/
def mark : UInt8 := 0xFF

/-- Whether a byte ends a line of a marked text. -/
def isLineEnd (b : UInt8) : Bool := b == 10 || b == 12

/-- A line: its cells, and whether columns end with it. -/
structure Row where
  cells : List Text
  closed : Bool
deriving Repr, DecidableEq

namespace Row

/-- Puts a byte in front of a line. -/
def push (b : UInt8) (r : Row) : Row :=
  match r.cells with
  | [] => { r with cells := [[b]] }
  | c :: cs => { r with cells := (b :: c) :: cs }

/-- The lines of a marked text, with marks. -/
def ofText : (inside : Bool) → Text → List Row
  | _, [] => [⟨[[]], true⟩]
  | inside, b :: rest =>
    if !inside ∧ isLineEnd b then ⟨[[]], b == 12⟩ :: ofText inside rest
    else
      match ofText (if b = mark then !inside else inside) rest with
      | [] => []
      | r :: rs =>
        if !inside ∧ b = 9 then { r with cells := [] :: r.cells } :: rs else r.push b :: rs

/-- The number of characters of a cell. -/
def cellWidth (c : Text) : Nat := c.countP fun b => b != mark && !Text.isContinuation b

/-- The width that a line asks for in a column: that of its cell and a blank, unless the cell is
its last. -/
def width? (column : Nat) (r : Row) : Option Nat :=
  if column + 1 < r.cells.length then (r.cells[column]?).map fun c => cellWidth c + 1 else none

/-- The greatest of the widths so far in every run of lines that have one; `latest` is that of
the line before, and whether columns end with that line. -/
def widest : (latest : Nat) → List (Option Nat × Bool) → List (Option Nat × Bool)
  | _, [] => []
  | _, (none, closed) :: rest => (none, closed) :: widest 0 rest
  | latest, (some w, closed) :: rest =>
    (some (max latest w), closed) :: widest (if closed then 0 else max latest w) rest

/-- The widths of the lines in a column, alike in every run. -/
def columnWidths (column : Nat) (rows : List Row) : List (Option Nat) :=
  let there := widest 0 (rows.map fun r => (r.width? column, r.closed))
  -- on the way back, columns end where the line above is closed
  let ends := (rows.map (·.closed)).dropLast
  let back := ((there.map (·.1)).zip (false :: ends)).reverse
  ((widest 0 back).map (·.1)).reverse

/-- The text of a line whose columns have the given widths. Tabs fill empty cells at its start,
and blanks all others. -/
def write : (leading : Bool) → List Text → List Nat → Text
  | _, [], _ => []
  | _, [c], _ => c
  | _, c :: cs, [] => c ++ write false cs []
  | leading, c :: cs, w :: ws =>
    if c.isEmpty then
      (if leading then List.replicate ((w + 7) / 8) 9 else List.replicate w 32) ++
        write leading cs ws
    else c ++ List.replicate (w - cellWidth c) 32 ++ write false cs ws

end Row

/-- Takes the blanks at line ends and the marks away. `blanks` holds the blanks that wait for what
follows them, backwards. -/
def dropBlanks : (inside : Bool) → (blanks : Text) → Text → Text
  | _, _, [] => []
  | true, _, b :: rest =>
    if b = mark then dropBlanks false [] rest else b :: dropBlanks true [] rest
  | false, blanks, b :: rest =>
    if b = 32 ∨ b = 9 then dropBlanks false (b :: blanks) rest
    else if isLineEnd b then 10 :: dropBlanks false [] rest
    else if b = mark then blanks.reverse ++ dropBlanks true [] rest
    else blanks.reverse ++ b :: dropBlanks false [] rest

/-- The widths of the columns of every line. -/
def Row.widths (rows : List Row) : List (List Nat) :=
  let columns := rows.foldl (fun n r => max n r.cells.length) 0
  (List.range columns).foldr
    (fun j widths => (columnWidths j rows).zipWith (fun w ws => w.toList ++ ws) widths)
    (rows.map fun _ => [])

/-- A marked text with its columns in line. -/
def alignColumns (t : Text) : Text :=
  let rows := Row.ofText false t
  let lines := rows.zipWith (fun r ws => Row.write true r.cells ws)
    (Row.widths rows)
  dropBlanks false [] (Text.join "\n" lines)

end AdtCompiler.Layout
