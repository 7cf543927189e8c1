import AdtCompiler.Digest.Sha256
import AdtCompiler.Path
import AdtCompiler.Source.Normalize
import AdtCompiler.Source.Span

/-!
# Source files

A source file holds its text and resolves byte offsets into lines and columns by searching the
index of its line ends. A file set numbers the files of one run.
-/

namespace AdtCompiler

/-- The offsets of the line feeds of a text that starts at offset `start`. -/
def Source.newlineOffsets (start : Nat) : Text → List UInt32
  | [] => []
  | b :: rest =>
    if b = newline then start.toUInt32 :: newlineOffsets (start + 1) rest
    else newlineOffsets (start + 1) rest

/-- A source file. Its path names it in messages and in generated text. The offsets of its line
feeds are kept, because every position is found through them. -/
structure SourceFile where
  id : UInt32
  path : Text
  content : Text
  flags : Source.Flags
  /-- The offsets of the file's line feeds, in order. -/
  lineIndex : Array UInt32 := (Source.newlineOffsets 0 content).toArray
  lineIndex_eq : lineIndex = (Source.newlineOffsets 0 content).toArray := by rfl
deriving Repr, DecidableEq

instance : Inhabited SourceFile := ⟨{ id := 0, path := [], content := [], flags := 0 }⟩

namespace Source

/-- The number of entries below `offset` in a sorted index, searched between `lo` and `hi` by
halving. -/
def countBelow (index : Array UInt32) (offset : UInt32) (lo hi : Nat) : Nat :=
  if _h : lo < hi then
    let mid := (lo + hi) / 2
    match index[mid]? with
    | none => lo
    | some entry =>
      if entry < offset then countBelow index offset (mid + 1) hi
      else countBelow index offset lo mid
  else lo
termination_by hi - lo
decreasing_by all_goals omega

/-- The position of an offset, given the offsets of all line feeds. A line feed belongs to the
line that it ends. -/
def positionIn (index : Array UInt32) (offset : UInt32) : Position :=
  let before := countBelow index offset 0 index.size
  match index[before - 1]? with
  | some last =>
    if before = 0 then ⟨1, offset + 1⟩
    else ⟨(before + 1).toUInt32, offset - (last + 1) + 1⟩
  | none => ⟨1, offset + 1⟩

/-- Why bytes cannot be read. -/
inductive ReadFault where
  /-- The text has more bytes than offsets can count. -/
  | tooLong
  /-- The offsets are not in order, or not inside of the text. -/
  | outOfRange
deriving Repr, DecidableEq

/-- The bytes of a text from one offset up to another. -/
def extract (t : Text) (start stop : Nat) : Except ReadFault Text :=
  if start ≤ stop ∧ stop ≤ t.length then .ok ((t.drop start).take (stop - start))
  else .error .outOfRange

end Source

namespace SourceFile

/-- The SHA-256 digest of the text. -/
def digest (f : SourceFile) : Text := Digest.sha256 f.content

/-- The position of a byte offset. -/
def position (f : SourceFile) (offset : UInt32) : Position :=
  Source.positionIn f.lineIndex offset

/-- The bytes from one offset up to another. -/
def slice (f : SourceFile) (start stop : Nat) : Text :=
  (f.content.drop start).take (stop - start)

/-- Where the line of a number counted from one starts, if the file has it: at the beginning, or
behind a line feed. -/
def lineStart? (f : SourceFile) (number : UInt32) : Option Nat :=
  if number = 1 then some 0
  else (f.lineIndex[(number - 2).toNat]?).map fun last => (last + 1).toNat

/-- Where the line of a number ends: at the next line feed, or at the end of the file. -/
def lineStop (f : SourceFile) (number : UInt32) : Nat :=
  match f.lineIndex[(number - 1).toNat]? with
  | some next => next.toNat
  | none => f.content.length

/-- The line of a number counted from one, without its line feed; empty when the file has no such
line. No line can be read where offsets are too small for the file. -/
def readLine (f : SourceFile) (number : UInt32) : Except Source.ReadFault Text :=
  if number = 0 then .ok []
  else if UInt32.size ≤ f.content.length then .error .tooLong
  else
    match f.lineStart? number with
    | none => .ok []
    | some start =>
      if f.content.length < start then .ok []
      else Source.extract f.content start (min (f.lineStop number) f.content.length)

/-- The line of a number, empty when it cannot be read. -/
def line (f : SourceFile) (number : UInt32) : Text := (f.readLine number).toOption.getD []

end SourceFile

/-- The files of one run; a file's number is its place in the set. -/
structure FileSet where
  files : Array SourceFile := #[]
deriving Repr, Inhabited

namespace FileSet

/-- The number of files. -/
def size (s : FileSet) : Nat := s.files.size

/-- Adds a text as it is, under its cleaned path. A path may be added again. -/
def add (s : FileSet) (path content : Text) (flags : Source.Flags) : FileSet × UInt32 :=
  let id := s.files.size.toUInt32
  (⟨s.files.push { id, path := Path.clean path, content, flags }⟩, id)

/-- Adds a text given in memory, normalised. -/
def addVirtual (s : FileSet) (path content : Text) : FileSet × UInt32 :=
  let (content, flags) := Source.normalize content
  s.add path content (flags ||| Source.Flags.virtual)

/-- Adds the bytes of a file on disk, normalised. -/
def addLoaded (s : FileSet) (path bytes : Text) : FileSet × UInt32 :=
  let (content, flags) := Source.normalize bytes
  s.add path content flags

/-- The file of a number. -/
def get? (s : FileSet) (id : UInt32) : Option SourceFile := s.files[id.toNat]?

/-- The number of the file added last under a path. -/
def latest? (s : FileSet) (path : Text) : Option UInt32 :=
  (s.files.toList.reverse.find? (·.path == Path.clean path)).map (·.id)

/-- The positions of both ends of a span. -/
def resolve? (s : FileSet) (span : Span) : Option (Position × Position) :=
  (s.get? span.file).map fun f => (f.position span.start, f.position span.stop)

end FileSet

end AdtCompiler
