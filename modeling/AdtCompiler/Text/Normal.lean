import AdtCompiler.Text.Utf8
import AdtCompiler.Text.Normal.Data

/-!
# The composed normal form

Two spellings of a character, such as `é` as one code point or as `e` with an accent, become
the same bytes in the composed normal form.

A text is taken apart into segments, each a code point and the marks behind it. A segment whose
code points may stay and whose marks are in order is left alone. Any other segment is
decomposed, its marks are put in canonical order, and what can be composed is composed again.

The form is stream safe: a run of marks is never longer than thirty, because a grapheme joiner
is put in front of the mark that would be one too many. Bytes that are not UTF-8 stay as they
are and separate what stands around them.
-/

namespace AdtCompiler.Text

/-! ## Hangul syllables -/

/-- Whether a code point is a Hangul syllable. -/
def isSyllable (c : Nat) : Bool := 0xAC00 ≤ c && c < 0xAC00 + 11172

/-- The consonants and the vowel of a Hangul syllable. -/
def syllableParts (c : Nat) : List Nat :=
  let s := c - 0xAC00
  let tail := if s % 28 = 0 then [] else [0x11A7 + s % 28]
  (0x1100 + s / 588) :: (0x1161 + s % 588 / 28) :: tail

/-- The syllable that a leading consonant and a vowel, or an open syllable and a trailing
consonant, compose to. -/
def composeSyllable? (a b : Nat) : Option Nat :=
  if 0x1100 ≤ a ∧ a < 0x1113 ∧ 0x1161 ≤ b ∧ b < 0x1176 then
    some (0xAC00 + (a - 0x1100) * 588 + (b - 0x1161) * 28)
  else if isSyllable a ∧ (a - 0xAC00) % 28 = 0 ∧ 0x11A7 < b ∧ b < 0x11C3 then
    some (a + (b - 0x11A7))
  else none

/-! ## Single code points -/

/-- The canonical combining class; zero for code points that are no marks. -/
def combiningClass (c : Nat) : Nat :=
  match combiningClassTable.find? c with
  | some ⟨_, _, k :: _⟩ => k
  | _ => 0

/-- The full canonical decomposition of a code point. -/
def decompose (c : Nat) : List Nat :=
  if isSyllable c then syllableParts c
  else
    match decompositionTable.find? c with
    | some e => e.values
    | none => [c]

/-- Whether a code point may compose with one before it. -/
def joinsBackward (c : Nat) : Bool :=
  joiningTable.contains c

/-- Whether two code points have the same lowest sixteen bits. -/
def sameLow (a b : Nat) : Bool := a % 65536 == b % 65536

/-- The code point that two code points compose to. Pairs are told apart by the lowest sixteen
bits of their numbers only, so that code points of different planes may compose alike. -/
def compose? (a b : Nat) : Option Nat :=
  (compositeTable.entries.find? fun e =>
    match e.values with
    | [x, y] => sameLow x a && sameLow y b
    | _ => false).map (·.first)

/-- Whether a code point is left alone where the marks around it are in order: it does not
compose with one before it, and it does not decompose for good. -/
def isSettled (c : Nat) : Bool :=
  !joinsBackward c &&
    (isSyllable c || !decompositionTable.contains c || compositeTable.contains c)

/-- Whether a code point counts as a mark for the stream-safe form. -/
def isMark (c : Nat) : Bool := combiningClass c != 0 || joinsBackward c

/-- The number of marks that a code point begins with once it is decomposed. -/
def leadingMarks (c : Nat) : Nat :=
  if compatibleMarkTable.contains c then 1
  else ((decompose c).takeWhile isMark).length

/-- The number of marks that a code point ends with once it is decomposed. -/
def trailingMarks (c : Nat) : Nat :=
  match compatibleTailTable.find? c with
  | some ⟨_, _, n :: _⟩ => n
  | _ =>
    if compatibleMarkTable.contains c then 1 else ((decompose c).reverse.takeWhile isMark).length

/-! ## Units of a text -/

/-- A unit of a text with what the normal form needs to know of it. -/
structure Mark where
  rune : Rune
  /-- The canonical combining class. -/
  order : Nat
  /-- Whether the unit may compose with one before it. -/
  joins : Bool

/-- A code point as it stands. -/
def Mark.ofCode (c : Nat) : Mark := ⟨.scalar c, combiningClass c, joinsBackward c⟩

/-- A code point that composition or arithmetic has put together. -/
def Mark.composed (c : Nat) : Mark := ⟨.scalar c, 0, false⟩

/-- The number of marks that a unit begins with. -/
def Rune.leadingMarks : Rune → Nat
  | .scalar c => Text.leadingMarks c
  | .stray _ => 0

/-- The number of marks that a unit ends with. -/
def Rune.trailingMarks : Rune → Nat
  | .scalar c => Text.trailingMarks c
  | .stray _ => 0

/-- The combining class of a unit. -/
def Rune.order : Rune → Nat
  | .scalar c => combiningClass c
  | .stray _ => 0

/-- Whether a unit is left alone where the marks around it are in order. -/
def Rune.isSettled : Rune → Bool
  | .scalar c => Text.isSettled c
  | .stray _ => true

/-- The longest run of marks of a stream-safe text. -/
def maxMarks : Nat := 30

/-! ## Segments that are left alone -/

/-- The segments at the front that are left alone, and the rest of the text. There are `count`
marks at the end of the segment that is being read, the last of class `order`, and the segment
so far is given backwards. -/
def settledFrom (count order : Nat) (segment : List Rune) : List Rune → List Rune × List Rune
  | [] => (segment.reverse, [])
  | r :: rest =>
    let lead := r.leadingMarks
    if maxMarks < count + lead then ([], segment.reverse ++ r :: rest)
    else if lead = 0 then
      if r.isSettled then
        let (front, rest) := settledFrom r.trailingMarks r.order [r] rest
        (segment.reverse ++ front, rest)
      else (segment.reverse, r :: rest)
    else if r.order < order ∨ !r.isSettled then ([], segment.reverse ++ r :: rest)
    else settledFrom (count + lead) r.order (r :: segment) rest

/-- The segments at the front that are left alone, and the rest of the text. -/
def settled (rs : List Rune) : List Rune × List Rune := settledFrom 0 0 [] rs

/-! ## A segment in canonical order -/

/-- The combining grapheme joiner. -/
def graphemeJoiner : Nat := 0x34F

/-- Puts a mark in front of the marks at the end that have a greater class; the segment is given
backwards. -/
def insertMark (m : Mark) : List Mark → List Mark
  | [] => [m]
  | n :: rest =>
    if m.order ≠ 0 ∧ m.order < n.order then n :: insertMark m rest else m :: n :: rest

/-- Adds a decomposed code point to a segment, which is given backwards behind the ones that are
complete. A part that joins nothing completes the segment before it. -/
def insertPart (done : List (List Mark)) (segment : List Mark) (m : Mark) :
    List (List Mark) × List Mark :=
  if m.order = 0 ∧ !m.joins ∧ !segment.isEmpty then (segment.reverse :: done, [m])
  else (done, insertMark m segment)

/-- Adds the decomposition of a unit to a segment. -/
def insertRune (done : List (List Mark)) (segment : List Mark) :
    Rune → List (List Mark) × List Mark
  | .stray b => (done, ⟨.stray b, 0, false⟩ :: segment)
  | .scalar c =>
    if isSyllable c then (done, ((syllableParts c).map Mark.composed).reverse ++ segment)
    else
      match decompositionTable.find? c with
      | some e => e.values.foldl (fun (done, segment) d => insertPart done segment (.ofCode d))
          (done, segment)
      | none => (done, insertMark (.ofCode c) segment)

/-- The segment at the front, in canonical order, and the rest of the text. A decomposition may
make several segments of one. There are `count` marks at the end of what was read. -/
def segmentFrom (count : Nat) (done : List (List Mark)) (segment : List Mark) :
    List Rune → List (List Mark) × List Rune
  | [] => ((segment.reverse :: done).reverse, [])
  | r :: rest =>
    let lead := r.leadingMarks
    if lead = 0 then ((segment.reverse :: done).reverse, r :: rest)
    else if maxMarks < count + lead then
      (((Mark.composed graphemeJoiner :: segment).reverse :: done).reverse, r :: rest)
    else
      let (done, segment) := insertRune done segment r
      segmentFrom (count + lead) done segment rest

/-- The segment at the front of a text that starts with the unit `r`, in canonical order, and the
rest of the text. -/
def segmentAt (r : Rune) (rest : List Rune) : List (List Mark) × List Rune :=
  let (done, segment) := insertRune [] [] r
  segmentFrom (if r.leadingMarks = 0 then r.trailingMarks else r.leadingMarks) done segment rest

/-! ## Composition -/

/-- A segment that is being composed. Marks compose with the base. -/
structure Composing where
  /-- What stands before the base, backwards. -/
  before : List Mark := []
  base : Mark
  /-- What stands behind the base, backwards. -/
  behind : List Mark := []

namespace Composing

/-- The unit at the end. -/
def last (s : Composing) : Mark := s.behind.head?.getD s.base

/-- Makes the unit at the end the base, if it is no mark. -/
def rebase (s : Composing) : Composing :=
  match s.behind with
  | [] => s
  | m :: more => if m.order = 0 then ⟨more ++ s.base :: s.before, m, []⟩ else s

/-- Whether a mark between the base and `m` keeps the two apart. -/
def isBlocked (s : Composing) (m : Mark) : Bool := !s.behind.isEmpty && m.order ≤ s.last.order

/-- Puts a unit at the end. -/
def push (s : Composing) (m : Mark) : Composing := { s with behind := m :: s.behind }

/-- Replaces the base by what it composes to with a unit, or puts that unit at the end. -/
def join (s : Composing) (m : Mark) (composed : Nat → Nat → Option Nat) : Composing :=
  if s.isBlocked m then s.push m
  else
    match s.base.rune, m.rune with
    | .scalar a, .scalar b =>
      match composed a b with
      | some c => { s with base := .composed c }
      | none => s.push m
    | _, _ => s.push m

/-- Adds a unit. The base is chosen anew only for a unit that may compose: it is the unit right
before, unless that one is a mark. -/
def add (s : Composing) (m : Mark) : Composing :=
  if m.joins then s.rebase.join m compose? else s.push m

/-- Adds a unit behind the vowels and consonants of a Hangul syllable. -/
def addJamo (s : Composing) (m : Mark) : Composing := s.rebase.join m composeSyllable?

/-- All units, in order. -/
def marks (s : Composing) : List Mark := s.before.reverse ++ s.base :: s.behind.reverse

end Composing

/-- Whether a unit is one of the vowels and consonants of Hangul syllables. -/
def Mark.isJamo (m : Mark) : Bool :=
  match m.rune with
  | .scalar c => 0x1100 ≤ c && c < 0x1200
  | .stray _ => false

/-- Composes the units behind those that have been composed. From the first vowel or consonant
of a Hangul syllable on, only those compose. -/
def composeFrom (s : Composing) : List Mark → Composing
  | [] => s
  | m :: rest =>
    if m.isJamo then (m :: rest).foldl Composing.addJamo s else composeFrom (s.add m) rest

/-- Composes a segment in canonical order. -/
def composeSegment : List Mark → List Mark
  | [] => []
  | m :: rest => (composeFrom ⟨[], m, []⟩ rest).marks

/-! ## The normal form of a text -/

/-- The part of a text whose sequences are complete, and the bytes of a sequence that the text
ends within. -/
def splitComplete : (fuel : Nat) → Text → Text × Text
  | 0, t => (t, [])
  | fuel + 1, t =>
    if t.isEmpty then ([], [])
    else
      match chunkSize t with
      | 0 => ([], t)
      | size =>
        let (front, tail) := splitComplete fuel (t.drop size)
        (t.take size ++ front, tail)

/-- The composed normal form of units. Every step takes a unit away at least, so the number of
units is fuel enough. -/
def normalRunes : (fuel : Nat) → List Rune → List Rune
  | 0, rs => rs
  | fuel + 1, rs =>
    match settled rs with
    | (front, []) => front
    | (front, r :: rest) =>
      let (segments, rest) := segmentAt r rest
      front ++ (segments.flatMap fun s => (composeSegment s).map (·.rune)) ++
        normalRunes fuel rest

/-- The composed normal form. A text of ASCII characters is its own normal form. -/
def normalForm (t : Text) : Text :=
  if t.all (· < 0x80) then t
  else
    let (front, tail) := splitComplete t.length t
    let rs := runes front
    ((normalRunes rs.length rs).flatMap Rune.bytes) ++ tail

end AdtCompiler.Text
