import AdtCompiler.Text.Basic

/-!
# UTF-8

Decoding a text into Unicode scalar values. A byte that does not begin a well-formed sequence
stands alone as a stray byte, so that every text has a decoding and the decoding loses nothing.
-/

namespace AdtCompiler.Text

/-- The replacement character, shown where a text is not UTF-8. -/
def replacement : Nat := 0xFFFD

/-- A unit of a decoded text: a scalar value, or a byte that belongs to none. -/
inductive Rune where
  | scalar (code : Nat)
  | stray (byte : UInt8)
deriving Repr, DecidableEq, Inhabited

/-- The code point that a unit shows as. -/
def Rune.code : Rune → Nat
  | .scalar c => c
  | .stray _ => replacement

/-- Whether a byte continues a sequence. -/
def isContinuation (b : UInt8) : Bool := 0x80 ≤ b && b < 0xC0

/-- The scalar value of a two-byte sequence. -/
def scalarOf2? (a b : UInt8) : Option Nat :=
  if 0xC2 ≤ a ∧ a < 0xE0 ∧ isContinuation b then
    some ((a.toNat - 0xC0) * 64 + (b.toNat - 0x80))
  else none

/-- The scalar value of a three-byte sequence. Longer spellings of a value and surrogates are
refused. -/
def scalarOf3? (a b c : UInt8) : Option Nat :=
  if 0xE0 ≤ a ∧ a < 0xF0 ∧ isContinuation b ∧ isContinuation c then
    let n := (a.toNat - 0xE0) * 4096 + (b.toNat - 0x80) * 64 + (c.toNat - 0x80)
    if n < 0x800 ∨ (0xD800 ≤ n ∧ n < 0xE000) then none else some n
  else none

/-- The scalar value of a four-byte sequence, between 0x10000 and 0x10FFFF. -/
def scalarOf4? (a b c d : UInt8) : Option Nat :=
  if 0xF0 ≤ a ∧ a < 0xF8 ∧ isContinuation b ∧ isContinuation c ∧ isContinuation d then
    let n := (a.toNat - 0xF0) * 262144 + (b.toNat - 0x80) * 4096 + (c.toNat - 0x80) * 64
      + (d.toNat - 0x80)
    if n < 0x10000 ∨ 0x110000 ≤ n then none else some n
  else none

/-- The scalar value at the head of a text and the number of its bytes. -/
def scalarAt? : Text → Option (Nat × Nat)
  | [] => none
  | a :: t =>
    if a < 0x80 then some (a.toNat, 1)
    else
      match t with
      | b :: c :: d :: _ =>
        ((scalarOf2? a b).map (·, 2)).or <| ((scalarOf3? a b c).map (·, 3)).or <|
          (scalarOf4? a b c d).map (·, 4)
      | [b, c] => ((scalarOf2? a b).map (·, 2)).or <| (scalarOf3? a b c).map (·, 3)
      | [b] => (scalarOf2? a b).map (·, 2)
      | [] => none

/-- The units of a text after its first `skip` bytes, which belong to a unit read before. -/
def runesFrom : (skip : Nat) → Text → List Rune
  | _, [] => []
  | skip + 1, _ :: t => runesFrom skip t
  | 0, a :: t =>
    match scalarAt? (a :: t) with
    | some (n, size) => .scalar n :: runesFrom (size - 1) t
    | none => .stray a :: runesFrom 0 t

/-- The units of a text, in order. -/
def runes (t : Text) : List Rune := runesFrom 0 t

/-- Whether every byte belongs to a scalar value. -/
def isUtf8 (t : Text) : Bool :=
  (runes t).all fun | .scalar _ => true | .stray _ => false

/-- The bytes of a scalar value. -/
def ofCode (n : Nat) : Text :=
  if n < 0x80 then [n.toUInt8]
  else if n < 0x800 then [(0xC0 + n / 64).toUInt8, (0x80 + n % 64).toUInt8]
  else if n < 0x10000 then
    [(0xE0 + n / 4096).toUInt8, (0x80 + n / 64 % 64).toUInt8, (0x80 + n % 64).toUInt8]
  else
    [(0xF0 + n / 262144).toUInt8, (0x80 + n / 4096 % 64).toUInt8, (0x80 + n / 64 % 64).toUInt8,
      (0x80 + n % 64).toUInt8]

/-- The bytes of a unit. -/
def Rune.bytes : Rune → Text
  | .scalar n => ofCode n
  | .stray b => [b]

/-- The number of bytes that a first byte announces. -/
def announced (a : UInt8) : Nat :=
  if a < 0xC2 then 1 else if a < 0xE0 then 2 else if a < 0xF0 then 3
  else if a < 0xF8 then 4 else 1

/-- The number of bytes that belong together at the head of a text when sequences are told
apart by their first byte alone: the announced bytes as far as they continue the sequence. It
is zero when the text ends within the announced bytes. -/
def chunkSize : Text → Nat
  | [] => 0
  | a :: rest =>
    if rest.length + 1 < announced a then 0
    else 1 + ((rest.take (announced a - 1)).takeWhile isContinuation).length

end AdtCompiler.Text
