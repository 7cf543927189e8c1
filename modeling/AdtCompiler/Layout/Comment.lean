import AdtCompiler.Text.Blank

/-!
# Comments

A comment runs from two slashes to the end of the line, or from a slash and a star to a star and
a slash. Where it is written anew, its lines lose the blanks at their ends, and the lines of a
block move to the margin of the comment.
-/

namespace AdtCompiler.Layout

/-- A comment: where it starts, and its text without carriage returns. -/
structure Comment where
  start : Nat
  text : Text
deriving Repr, DecidableEq, Inhabited

namespace Comment

/-- The offset behind the comment. -/
def stop (c : Comment) : Nat := c.start + c.text.length

/-- Whether the comment runs to the end of its line. -/
def isLine (c : Comment) : Bool := ("//" : Text).isPrefixOf c.text

/-- The number of line ends inside the comment. -/
def breaks (c : Comment) : Nat := c.text.count 10

end Comment

/-- Comments with nothing but white space and at most one line end between neighbours. -/
abbrev CommentGroup := List Comment

/-! ## Carriage returns -/

/-- The text of a block comment without carriage returns; one that keeps a star from closing the
comment stays. What is kept is given backwards. -/
def dropReturns : (kept : Text) → Text → Text
  | kept, [] => kept.reverse
  | kept, b :: rest =>
    if b = 13 ∧ !(2 < kept.length ∧ kept.head? = some (Text.byte '*') ∧
        rest.head? = some (Text.byte '/')) then
      dropReturns kept rest
    else dropReturns (b :: kept) rest

/-! ## The margin of a block comment -/

/-- Whether a line holds only blanks and control characters. -/
def isEmptyLine (line : Text) : Bool := line.all (· ≤ 32)

/-- The longest common start of two lines that holds only blanks, control characters and
stars. -/
def commonMargin : Text → Text → Text
  | a :: s, b :: t => if a = b ∧ (a ≤ 32 ∨ a = Text.byte '*') then a :: commonMargin s t else []
  | _, _ => []

/-- The common start of the lines between the first and the last of a block comment; empty lines
do not count. If there are none, the last line counts. -/
def innerMargin (inner : List Text) (last : Text) : Text :=
  match inner.filter (!isEmptyLine ·) with
  | [] => commonMargin last last
  | line :: rest => rest.foldl commonMargin (commonMargin line line)

/-- Takes away an end of a text, if it has that end. -/
def dropEnd (ending t : Text) : Text :=
  if ending.isSuffixOf t then t.take (t.length - ending.length) else t

/-- The part of a margin that is indentation by itself rather than the place of the text beside
the opening mark. -/
def ownMargin (first margin : Text) : Text :=
  let opening := first.drop 2
  if isEmptyLine opening then
    let blanks := (margin.reverse.takeWhile (· == 32)).length
    if 0 < blanks then margin.take (margin.length - min 3 blanks) else dropEnd [9] margin
  else
    let space := opening.takeWhile (· ≤ 32)
    dropEnd (if space.head? = some 9 then space else [32, 32] ++ space) margin

/-- The lines of a block comment behind its first, moved to the margin of the comment. -/
def alignLines (first : Text) (inner : List Text) (last : Text) : List Text :=
  let inner := inner.map fun line => if isEmptyLine line then [] else line
  let found := innerMargin inner last
  let stars := found.contains (Text.byte '*')
  let margin :=
    if stars then dropEnd [32] (found.takeWhile (· != Text.byte '*')) else ownMargin first found
  let before := ((Text.cut? "*/" last).getD ([], [])).1
  let closes := isEmptyLine before
  let last := if closes then margin ++ Text.when stars " " ++ "*/" else last
  let margin := if closes then margin else commonMargin margin last
  (inner ++ [last]).map fun line => line.drop margin.length

/-- The lines of a block comment in their layout. In a comment that is moved from the first
column to an indentation, the lines behind the first are moved along. -/
def blockLines (indented : Bool) (comment : Text) : List Text :=
  match Text.splitOn 10 comment with
  | first :: second :: rest =>
    let lines := (second :: rest).map fun line => Text.when indented "   " ++ line
    first :: alignLines first lines.dropLast (lines.getLast?.getD [])
  | lines => lines

end AdtCompiler.Layout
