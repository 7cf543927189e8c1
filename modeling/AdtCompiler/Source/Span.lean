import AdtCompiler.Text.Basic

/-!
# Spans and positions

A span is a range of bytes in one source file. Files and offsets are numbered with 32 bits,
and all arithmetic on them wraps around.
-/

namespace AdtCompiler

/-- A range of bytes in a source file: from `start` up to and without `stop`. -/
structure Span where
  file : UInt32
  start : UInt32
  stop : UInt32
deriving Repr, DecidableEq, Inhabited

/-- A place in a source file for readers; lines and columns count from one, and columns count
bytes. -/
structure Position where
  line : UInt32
  column : UInt32
deriving Repr, DecidableEq, Inhabited

namespace Span

/-- Whether the span holds no byte. -/
def isEmpty (s : Span) : Bool := s.start == s.stop

/-- The number of bytes in the span. -/
def length (s : Span) : UInt32 := s.stop - s.start

/-- The span as a text: file, start and end. -/
def text (s : Span) : Text :=
  Text.decimal s.file.toNat ++ ":" ++ Text.decimal s.start.toNat ++ "-" ++
    Text.decimal s.stop.toNat

/-- The least span that holds both; a span of another file is left out. -/
def cover (s t : Span) : Span :=
  if s.file ≠ t.file then s
  else
    { s with
      start := if t.start < s.start then t.start else s.start
      stop := if t.stop > s.stop then t.stop else s.stop }

end Span

end AdtCompiler
