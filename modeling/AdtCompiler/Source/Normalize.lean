import AdtCompiler.Text.Normal

/-!
# Normalising source texts

Before a source is read, a leading byte-order mark is dropped, line ends written as carriage
return and line feed become line feeds, and the text is put into the composed normal form. Each
step reports whether it changed anything.
-/

namespace AdtCompiler.Source

/-- The carriage return. -/
def carriageReturn : UInt8 := 13

/-- The line feed, which ends a line. -/
def newline : UInt8 := 10

/-- Drops a leading byte-order mark. -/
def removeByteOrderMark : Text → Text × Bool
  | 0xEF :: 0xBB :: 0xBF :: rest => (rest, true)
  | t => (t, false)

/-- Every carriage return that stands before a line feed removed; lone ones stay. -/
def joinLineEnds : Text → Text
  | [] => []
  | b :: rest =>
    if b = carriageReturn ∧ rest.head? = some newline then joinLineEnds rest
    else b :: joinLineEnds rest

/-- Whether a carriage return stands before a line feed. -/
def hasPairedLineEnd : Text → Bool
  | [] => false
  | b :: rest => (b == carriageReturn && rest.head? == some newline) || hasPairedLineEnd rest

/-- Replaces paired line ends. -/
def normalizeLineEnds (t : Text) : Text × Bool := (joinLineEnds t, hasPairedLineEnd t)

/-- Puts the text into the composed normal form. -/
def normalizeForm (t : Text) : Text × Bool :=
  let u := t.normalForm
  (u, u != t)

/-! ## Flags -/

/-- Properties of a source file, one bit each. -/
abbrev Flags := UInt8

/-- The file was given in memory. -/
def Flags.virtual : Flags := 1

/-- A byte-order mark was dropped. -/
def Flags.hadByteOrderMark : Flags := 2

/-- Line ends were replaced. -/
def Flags.lineEndsNormalized : Flags := 4

/-- The text was put into the composed normal form. -/
def Flags.formNormalized : Flags := 8

/-- The flag when the condition holds. -/
def Flags.when (condition : Bool) (flag : Flags) : Flags := if condition then flag else 0

/-- All three steps, and the flags of those that changed something. -/
def normalize (t : Text) : Text × Flags :=
  let (t, hadMark) := removeByteOrderMark t
  let (t, hadPairs) := normalizeLineEnds t
  let (t, changed) := normalizeForm t
  (t, Flags.when hadMark Flags.hadByteOrderMark ||| Flags.when hadPairs Flags.lineEndsNormalized |||
    Flags.when changed Flags.formNormalized)

end AdtCompiler.Source
