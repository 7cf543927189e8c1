import AdtCompiler.Source.File

/-!
# Cursors

A cursor walks over the bytes of a file. Offsets are 32-bit numbers, so there is no cursor for a
file with more bytes than they can count. They wrap around, so a cursor that was set by hand may
stand anywhere; looking at two bytes from the very last offset is the one step that has no answer.
-/

namespace AdtCompiler

/-- A place between the bytes of a file. -/
structure Cursor where
  file : SourceFile
  offset : UInt32
deriving Repr

namespace Cursor

/-- The cursor before the first byte, unless the file is too long for one. -/
def start? (file : SourceFile) : Option Cursor :=
  if file.content.length < UInt32.size then some ⟨file, 0⟩ else none

/-- The number of bytes of the file. -/
def limit (c : Cursor) : UInt32 := c.file.content.length.toUInt32

/-- Whether no byte is left. -/
def atEnd (c : Cursor) : Bool := c.limit ≤ c.offset

/-- The byte behind the cursor, or zero at the end. -/
def peek (c : Cursor) : UInt8 :=
  if c.atEnd then 0 else c.file.content[c.offset.toNat]?.getD 0

/-- The two bytes behind the cursor, if there are two. The outer `none` means that the first of
them lies outside the file although the second does not. -/
def peekTwo (c : Cursor) : Option (Option (UInt8 × UInt8)) :=
  if c.limit ≤ c.offset + 1 then some none
  else
    match c.file.content[c.offset.toNat]?, c.file.content[(c.offset + 1).toNat]? with
    | some a, some b => some (some (a, b))
    | _, _ => none

/-- Takes the byte behind the cursor; at the end it takes nothing and gives zero. -/
def bump (c : Cursor) : UInt8 × Cursor :=
  if c.atEnd then (0, c) else (c.peek, { c with offset := c.offset + 1 })

/-- The span from an offset to the cursor. -/
def spanFrom (c : Cursor) (mark : UInt32) : Span := ⟨c.file.id, mark, c.offset⟩

/-- The cursor at an offset. -/
def reset (c : Cursor) (mark : UInt32) : Cursor := { c with offset := mark }

end Cursor

end AdtCompiler
