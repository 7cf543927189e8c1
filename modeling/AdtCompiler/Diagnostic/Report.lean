import AdtCompiler.Diagnostic.Bag
import AdtCompiler.Diagnostic.Colour
import AdtCompiler.Format.Json
import AdtCompiler.Text.Grapheme

/-!
# Reports

Diagnostics for readers, each with the line of the source it is about and carets under its
span, and diagnostics as JSON. A report exists only if every span belongs to a file of the set, and
its lines can be read.
-/

namespace AdtCompiler

namespace Report

/-! ## Excerpts -/

/-- Blanks as wide on screen as a text; tabs stay tabs. -/
def caretPad (t : Text) : Text :=
  t.runes.flatMap fun r =>
    if r.code = 9 then [9] else List.replicate (Text.runeWidth r.code) 32

/-- A caret and as many tildes as fill the width of a text. -/
def underline (t : Text) : Text :=
  Text.byte '^' :: List.replicate (t.width - 1) (Text.byte '~')

/-- The style of the line numbers. -/
def gutterStyle : TextStyle := [.blue]

/-- The style of the carets. -/
def caretStyle : TextStyle := [.red, .bold]

/-- What stands left of a line of an excerpt. -/
def gutter (colours : Bool) (label : Text) : Text :=
  "  " ++ gutterStyle.paint colours (label ++ " |") ++ " "

/-- An excerpt from its parts: a line with its number, and below it a caret for the bytes that are
covered, behind blanks for those before them. -/
def excerptText (colours : Bool) (number : UInt32) (line before covered : Text) : Text :=
  let label := Text.decimal number.toNat
  gutter colours label ++ line ++ "\n" ++
    gutter colours (Text.padRight label.length []) ++ caretPad before ++
    caretStyle.paint colours (underline covered) ++ "\n"

/-- The part of a line that is marked, from the position of the start of a span and that of its
end. Columns may be anything, so they are kept within the line. -/
def markedPart (start stop : Position) (length : Nat) : Nat × Nat :=
  let from_ := min (start.column.toNat - 1) length
  let until_ :=
    if stop.line = start.line then min (max (stop.column.toNat - 1) from_) length else length
  (from_, until_)

/-- The line on which a span starts, with carets below the part of it that the span covers. An
empty span on an empty line shows nothing. -/
def excerpt (colours : Bool) (file : SourceFile) (span : Span) : Except Source.ReadFault Text := do
  let start := file.position span.start
  let stop := file.position span.stop
  let line ← file.readLine start.line
  if line.isEmpty && span.isEmpty then return []
  let (from_, until_) := markedPart start stop line.length
  let before ← Source.extract line 0 from_
  let covered ← Source.extract line from_ until_
  return excerptText colours start.line line before covered

/-! ## Reports for readers -/

/-- The style of a severity. -/
def severityStyle (s : Severity) : TextStyle :=
  if s = .error then [.red, .bold]
  else if s = .warning then [.yellow, .bold]
  else [.cyan, .bold]

/-- The style of codes and places. -/
def boldStyle : TextStyle := [.bold]

/-- The style of the word that starts a note. -/
def noteStyle : TextStyle := [.cyan]

/-- A place as path, line and column. -/
def place (file : SourceFile) (span : Span) : Text :=
  let position := file.position span.start
  file.path ++ ":" ++ Text.decimal position.line.toNat ++ ":" ++
    Text.decimal position.column.toNat

/-- A note with its excerpt. -/
def note? (colours : Bool) (files : FileSet) (n : Note) : Option Text := do
  let file ← files.get? n.span.file
  let shown ← (excerpt colours file n.span).toOption
  return "  " ++ noteStyle.paint colours "note:" ++ " " ++ place file n.span ++ ": " ++
    n.message ++ "\n" ++ shown

/-- A diagnostic with its excerpt and, if they are wanted, its notes. -/
def diagnostic? (colours notes : Bool) (files : FileSet) (d : Diagnostic) : Option Text := do
  let file ← files.get? d.span.file
  let shown ← (excerpt colours file d.span).toOption
  let notes ← if notes then d.notes.mapM (note? colours files) else some []
  return boldStyle.paint colours (place file d.span) ++ ": " ++
    (severityStyle d.severity).paint colours d.severity.name ++ " " ++
    boldStyle.paint colours d.code.id ++ ": " ++ d.message ++ "\n" ++
    shown ++ notes.flatten

end Report

namespace Bag

/-- All diagnostics for readers. -/
def report? (b : Bag) (files : FileSet) (colours notes : Bool) : Option Text :=
  (b.items.mapM (Report.diagnostic? colours notes files)).map List.flatten

end Bag

/-! ## Reports as JSON -/

namespace Report

/-- A member of an object that is left out when it is zero. -/
def positive (name : String) (value : UInt32) : List (String × Format.Json) :=
  if value = 0 then [] else [(name, .num value.toNat)]

/-- The place of a span, with lines and columns if they are wanted. -/
def location? (positions : Bool) (files : FileSet) (span : Span) : Option Format.Json := do
  let file ← files.get? span.file
  let start := file.position span.start
  let stop := file.position span.stop
  let lines :=
    if positions then
      positive "start_line" start.line ++ positive "start_col" start.column ++
        positive "end_line" stop.line ++ positive "end_col" stop.column
    else []
  return .obj ([("file", .str file.path), ("start_byte", .num span.start.toNat),
    ("end_byte", .num span.stop.toNat)] ++ lines)

/-- A note as JSON. -/
def noteJson? (positions : Bool) (files : FileSet) (n : Note) : Option Format.Json := do
  let location ← location? positions files n.span
  return .obj [("message", .str n.message), ("location", location)]

/-- A diagnostic as JSON, with its notes if they are wanted. -/
def diagnosticJson? (positions notes : Bool) (files : FileSet) (d : Diagnostic) :
    Option Format.Json := do
  let location ← location? positions files d.span
  let noteList ← if notes then d.notes.mapM (noteJson? positions files) else some []
  return .obj ([("severity", .str d.severity.name), ("code", .str d.code.id),
    ("message", .str d.message), ("location", location)] ++
    if noteList.isEmpty then [] else [("notes", .arr noteList)])

end Report

namespace Bag

/-- The diagnostics as JSON, at most as many as a positive bound says. -/
def reportJson? (b : Bag) (files : FileSet) (positions : Bool) (bound : Int) (notes : Bool) :
    Option Text := do
  let items := if 0 < bound then b.items.take bound.toNat else b.items
  let diagnostics ← items.mapM (Report.diagnosticJson? positions notes files)
  return (Format.Json.obj [("diagnostics", .arr diagnostics),
    ("count", .num diagnostics.length)]).text

end Bag

end AdtCompiler
