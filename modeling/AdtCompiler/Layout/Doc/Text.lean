import AdtCompiler.Layout.Doc.Running
import AdtCompiler.Layout.Doc.Span

/-!
# Documentation texts

The text of a documentation comment is made of blocks: paragraphs, headings, code that is
indented, and lists. Lines of the form `[text]: address` say where a bracketed text leads. Written
anew, blocks are set apart by empty lines, code and lists have one indentation, and the addresses
stand at the end.
-/

namespace AdtCompiler.Layout

/-! ## Blocks -/

/-- An item of a list: its number, which is empty for an item behind a dash, and its
paragraphs. -/
structure ListItem where
  number : Text
  paragraphs : List Text
deriving Repr, DecidableEq

/-- A block of a documentation comment. -/
inductive DocBlock where
  | paragraph (text : Text)
  | heading (text : Text)
  | code (lines : List Text)
  /-- A list, and whether empty lines stand before it and between its items. -/
  | list (items : List ListItem) (blankBefore blankBetween : Bool)
deriving Repr, DecidableEq

/-- A line that says where a bracketed text leads. -/
structure LinkDef where
  text : Text
  address : Text
deriving Repr, DecidableEq

/-- The text of a documentation comment. -/
structure DocText where
  blocks : List DocBlock := []
  links : List LinkDef := []

namespace DocText

/-! ## Reading -/

/-- Reads a line that says where a bracketed text leads. -/
def linkDef? (line : Text) : Option LinkDef := do
  let inside ← if line.head? = some 0x5B then some (line.drop 1) else none
  let (text, rest) ← Text.cut? "]:" inside
  if rest.length < 2 ∨ !isIndented rest then none
  let address := Text.trim (rest.drop 1)
  let (scheme, _) ← Text.cut? "://" address
  if schemes.contains scheme then some ⟨text, address⟩ else none

/-- A paragraph of lines, unless all of them say where texts lead. -/
def paragraph (lines : List Text) : Option Text × List LinkDef :=
  match lines.mapM linkDef? with
  | some links => (none, links)
  | none => (some (Text.join "\n" lines), [])

/-- A list that is being read: the items before, latest first, the item at hand, the lines of
its last paragraph, latest first, and what was found on the way. -/
structure ListReader where
  done : List ListItem := []
  item : Option ListItem := none
  lines : List Text := []
  links : List LinkDef := []
  loose : Bool := false

namespace ListReader

/-- Ends the paragraph at hand. -/
def endParagraph (r : ListReader) : ListReader :=
  match r.item with
  | none => { r with lines := [] }
  | some item =>
    let (text, links) := paragraph r.lines.reverse
    { r with item := some { item with paragraphs := item.paragraphs ++ text.toList },
             lines := [], links := r.links ++ links }

/-- Reads a line of a list; `numbered` says which marks start its items. -/
def step (numbered : Bool) (r : ListReader) (line : Text) : ListReader :=
  let (r, line) :=
    match listMarker? line with
    | some (number, behind) =>
      if number.isEmpty != numbered then
        let r := r.endParagraph
        ({ r with done := r.item.toList ++ r.done, item := some ⟨number, []⟩ }, behind)
      else (r, line)
    | none => (r, line)
  let line := line.trim
  if line.isEmpty then { r.endParagraph with loose := true }
  else { r with lines := line :: r.lines }

end ListReader

/-- A list of lines, and the addresses in it. -/
def listBlock (s : Span) : DocBlock × List LinkDef :=
  let numbered := ((s.lines.head?.bind listMarker?).any fun (number, _) => !number.isEmpty)
  let r := (s.lines.foldl (ListReader.step numbered) {}).endParagraph
  let items := (r.item.toList ++ r.done).reverse
  let loose := r.loose || items.any fun i => i.paragraphs.length != 1
  (.list items (s.gap || loose) loose, r.links)

/-- The block of a span, if it is one, and the addresses in it. -/
def blockOf (s : Span) : Option DocBlock × List LinkDef :=
  match s.kind with
  | .paragraph =>
    let (text, links) := paragraph s.lines
    (text.map .paragraph, links)
  | .heading => (some (.heading (Text.trim ((s.lines.head?.getD []).drop 1))), [])
  | .oldHeading => (some (.heading (Text.trim (s.lines.head?.getD []))), [])
  | .code => (some (.code (unindent s.lines)), [])
  | .list =>
    let (block, links) := listBlock s
    (some block, links)

/-- Reads the text of a documentation comment. -/
def ofText (t : Text) : DocText :=
  let found := (spans (unindent (Text.splitOn 10 t))).map blockOf
  ⟨found.filterMap (·.1), found.flatMap (·.2)⟩

/-! ## Writing -/

/-- A text whose further lines are indented. -/
def indentLines (indent t : Text) : Text := Text.join ("\n" ++ indent) (Text.splitOn 10 t)

/-- A block as it is written, and the texts in brackets that lead somewhere. -/
def blockText (links : List Text) : DocBlock → Text × List Text
  | .paragraph t =>
    let (t, used) := running links t
    (t ++ "\n", used)
  | .heading t => ("# " ++ t ++ "\n", [])
  | .code lines =>
    (lines.flatMap fun line => Text.when (!line.isEmpty) ("\t" ++ line) ++ "\n", [])
  | .list items _ between =>
    let written := items.map fun i =>
      let paragraphs := i.paragraphs.map (running links)
      let mark : Text := if i.number.isEmpty then "  - " else " " ++ i.number ++ ". "
      let body := Text.join "\n    " (paragraphs.map fun p => indentLines "    " p.1 ++ "\n")
      (mark ++ body, paragraphs.flatMap (·.2))
    (Text.join (Text.when between "\n") (written.map (·.1)), written.flatMap (·.2))

/-- Whether an empty line stands before a block. -/
def hasBlankBefore : DocBlock → Bool
  | .list _ before _ => before
  | _ => true

/-- Addresses as they are written, behind an empty line. -/
def linkLines (links : List LinkDef) : Text :=
  Text.when (!links.isEmpty) "\n" ++
    links.flatMap fun l => ("[" ++ l.text ++ "]: " ++ l.address ++ "\n" : Text)

/-- The first address of each text. -/
def firstLinks : (seen : List Text) → List LinkDef → List (Bool × LinkDef)
  | _, [] => []
  | seen, l :: rest => (!seen.contains l.text, l) :: firstLinks (l.text :: seen) rest

/-- The text of a documentation comment as it is written: the blocks, the addresses that are
used, and the others. -/
def text (d : DocText) : Text :=
  let names := d.links.map (·.text)
  let written := d.blocks.map fun b => (hasBlankBefore b, blockText names b)
  let used := written.flatMap fun (_, _, used) => used
  let body :=
    match written with
    | [] => []
    | (_, first, _) :: rest =>
      first ++ rest.flatMap fun (blank, t, _) => Text.when blank "\n" ++ t
  let links := (firstLinks [] d.links).map fun (first, l) => (first && used.contains l.text, l)
  body ++ linkLines ((links.filter (·.1)).map (·.2)) ++
    linkLines ((links.filter (!·.1)).map (·.2))

end DocText

end AdtCompiler.Layout
