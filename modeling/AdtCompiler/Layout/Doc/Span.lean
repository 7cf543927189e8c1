import AdtCompiler.Text.Blank
import AdtCompiler.Text.Letter
import AdtCompiler.Text.Uppercase

/-!
# Lines of a documentation text

Which lines of a text belong together: a paragraph ends at an empty or an indented line, indented
lines are code or a list, and a line by itself may be a heading. Lines that should have been
indented are taken for indented ones.
-/

namespace AdtCompiler.Layout

namespace DocText

/-! ## Lines -/

/-- Lines without empty ones at both ends. -/
def dropEmptyEnds (lines : List Text) : List Text :=
  ((lines.dropWhile (·.isEmpty)).reverse.dropWhile (·.isEmpty)).reverse

/-- Whether a byte is a blank or a tab. -/
def isGap (b : UInt8) : Bool := b == 32 || b == 9

/-- Whether a line starts with a blank or a tab. -/
def isIndented (line : Text) : Bool := line.head?.any isGap

/-- The longest common start of two texts. -/
def commonStart : Text → Text → Text
  | a :: s, b :: t => if a = b then a :: commonStart s t else []
  | _, _ => []

/-- Takes a common indentation away. Lines of white space become empty. -/
def unindent (lines : List Text) : List Text :=
  match dropEmptyEnds lines with
  | [] => []
  | first :: rest =>
    let margin := rest.foldl
      (fun m line => if line.isEmpty then m else commonStart m (line.takeWhile isGap))
      (first.takeWhile isGap)
    dropEmptyEnds <| (first :: rest).map fun line =>
      let line := if margin.isPrefixOf line then line.drop margin.length else line
      if (Text.trim line).isEmpty then [] else line

/-- The number of a list item, empty for an item behind a dash or another mark, and the text
behind the mark. -/
def listMarker? (line : Text) : Option (Text × Text) :=
  let line := line.trim
  let marked : Option (Text × Text) :=
    if ("•" : Text).isPrefixOf line then some ([], line.drop 3)
    else
      match line with
      | [] => none
      | b :: rest =>
        if b = Text.byte '*' ∨ b = Text.byte '+' ∨ b = Text.byte '-' then some ([], rest)
        else
          let digits := line.takeWhile Text.isDigit
          match line.drop digits.length with
          | c :: rest =>
            if !digits.isEmpty ∧ (c = Text.byte '.' ∨ c = Text.byte ')') then some (digits, rest)
            else none
          | [] => none
  marked.filter fun (_, rest) => isIndented rest && !(Text.trim rest).isEmpty

/-- Whether a line starts a list item. -/
def isListLine (line : Text) : Bool := (listMarker? line).isSome

/-- Whether a line is a heading: a number sign, a blank and a text. -/
def isHeading (line : Text) : Bool :=
  match line with
  | 35 :: b :: _ => isGap b && line.trim != ("#" : Text)
  | _ => false

/-- Whether every occurrence of a byte is followed by a text that the test admits. -/
def alwaysBefore (b : UInt8) (admits : Text → Bool) : Text → Bool
  | [] => true
  | c :: rest => (c != b || admits rest) && alwaysBefore b admits rest

/-- Whether a line looks like a heading: it starts with a capital letter, ends in a letter or a
digit, and has hardly any punctuation. -/
def looksLikeHeading (line : Text) : Bool :=
  let line := line.trim
  let rs := line.runes
  let barred := Text.runes ";:!?+*/=[]\x7b\x7d_^°&§~%#@<\">\\"
  (rs.head?.any fun r =>
      match r with
      | .scalar c => Text.isLetter c && Text.isCapital c
      | .stray _ => false) &&
    (rs.getLast?.any fun r =>
      match r with
      | .scalar c => Text.isLetter c || Text.isNumeral c
      | .stray _ => false) &&
    !(rs.any fun r => barred.contains r) &&
    alwaysBefore (Text.byte '\'')
      (fun rest => rest == ("s" : Text) || ("s " : Text).isPrefixOf rest) line &&
    alwaysBefore (Text.byte '.') (fun rest => !rest.isEmpty && rest.head? != some 32) line

/-! ## Spans of lines -/

/-- A kind of block, as far as its lines show it. -/
inductive SpanKind where
  | paragraph
  | heading
  | oldHeading
  | code
  | list
deriving Repr, DecidableEq

/-- The lines of a block, and whether empty lines stand before them. -/
structure Span where
  kind : SpanKind
  lines : List Text
  gap : Bool

/-- The number of lines of an indented span, without the empty lines at its end. The first
`forced` lines count as indented; `listed` says that lines without indentation that start list
items belong to it, up to the next empty line. -/
def indentedLength (forced : Nat) (listed : Bool) : List Text → Nat
  | [] => 0
  | line :: rest =>
    if line.isEmpty then
      match indentedLength (forced - 1) false rest with
      | 0 => 0
      | n + 1 => n + 2
    else if 0 < forced ∨ isIndented line ∨ (listed ∧ isListLine line) then
      1 + indentedLength (forced - 1) listed rest
    else 0

/-- The number of lines at the end of unindented lines that belong to the indented line that
follows: items of a list that should have been indented, or a line that opens a block of code. -/
def misplaced (lines : List Text) (next : Option Text) : Nat :=
  match next, lines.getLast? with
  | some next, some last =>
    if next.isEmpty ∨ isListLine next then 0
    else if isListLine last then (lines.reverse.takeWhile isListLine).length
    else if last.getLast? = some 0x7B ∨ last.getLast? = some 0x5C then 1
    else 0
  | _, _ => 0

/-- The spans of lines. The first `forced` lines count as indented. -/
def spansWithin : (fuel forced : Nat) → (gap : Bool) → List Text → List Span
  | 0, _, _, _ => []
  | _ + 1, _, _, [] => []
  | fuel + 1, forced, gap, line :: rest =>
    if line.isEmpty then spansWithin fuel (forced - 1) true rest
    else if 0 < forced ∨ isIndented line then
      let listed := isListLine line && 0 < forced
      let n := 1 + indentedLength (forced - 1) listed rest
      let n := if ((line :: rest)[n]?.any fun l => l.head? == some 0x7D) then n + 1 else n
      ⟨if isListLine line then .list else .code, (line :: rest).take n, gap⟩ ::
        spansWithin fuel (forced - n) false ((line :: rest).drop n)
    else
      let lines := (line :: rest).takeWhile fun l => !l.isEmpty && !isIndented l
      let behind := (line :: rest).drop lines.length
      let moved := misplaced lines behind.head?
      let n := lines.length - moved
      if n = 0 then spansWithin fuel lines.length gap (line :: rest)
      else
        let old := gap &&
          match (line :: rest).drop n with
          | [] :: next :: _ => !isIndented next
          | _ => false
        let kind : SpanKind :=
          if n = 1 ∧ isHeading line then .heading
          else if n = 1 ∧ old ∧ looksLikeHeading line then .oldHeading
          else .paragraph
        ⟨kind, lines.take n, gap⟩ :: spansWithin fuel moved false ((line :: rest).drop n)

/-- The spans of lines. Every line is read twice at most. -/
def spans (lines : List Text) : List Span := spansWithin (2 * lines.length + 1) 0 false lines

end DocText

end AdtCompiler.Layout
