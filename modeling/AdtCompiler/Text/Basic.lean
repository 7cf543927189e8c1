/-!
# Texts

A text is a sequence of bytes. Source files may hold bytes that are not UTF-8, and all
positions count bytes, so bytes are the common ground of the reader, the checker and the
writers. A string literal stands for its UTF-8 bytes.

## Contents

- literals and decimal and hexadecimal numerals as texts
- joining, splitting and padding
- the bytewise order
-/

namespace AdtCompiler

/-- A text: a sequence of bytes, usually but not always valid UTF-8. -/
abbrev Text := List UInt8

namespace Text

/-- The UTF-8 bytes of a string. -/
def ofString (s : String) : Text := s.toUTF8.data.toList

instance : Coe String Text := ⟨ofString⟩

/-- The byte of an ASCII character. -/
def byte (c : Char) : UInt8 := c.toNat.toUInt8

/-! ## Numerals -/

/-- The decimal digit of a number below ten. -/
def digit (n : Nat) : UInt8 := (48 + n).toUInt8

/-- The decimal numeral of a number, without leading zeros. -/
def decimal (n : Nat) : Text :=
  if n < 10 then [digit n] else decimal (n / 10) ++ [digit (n % 10)]
termination_by n
decreasing_by omega

/-- A lower-case hexadecimal digit of a number below sixteen. -/
def hexDigit (n : Nat) : UInt8 :=
  if n < 10 then (48 + n).toUInt8 else (87 + n).toUInt8

/-- The hexadecimal numeral of `n` in exactly `width` lower-case digits. -/
def hexFixed : (width : Nat) → (n : Nat) → Text
  | 0, _ => []
  | w + 1, n => hexFixed w (n / 16) ++ [hexDigit (n % 16)]

/-- Every byte as two lower-case hexadecimal digits. -/
def hex (t : Text) : Text := t.flatMap fun b => hexFixed 2 b.toNat

/-- The value of a hexadecimal digit of either case. -/
def hexValue? (b : UInt8) : Option Nat :=
  if 48 ≤ b ∧ b ≤ 57 then some (b.toNat - 48)
  else if 97 ≤ b ∧ b ≤ 102 then some (b.toNat - 87)
  else if 65 ≤ b ∧ b ≤ 70 then some (b.toNat - 55)
  else none

/-- Reads pairs of hexadecimal digits back into bytes. -/
def ofHex? : Text → Option Text
  | [] => some []
  | a :: b :: rest => do
    let hi ← hexValue? a
    let lo ← hexValue? b
    let bytes ← ofHex? rest
    return (hi * 16 + lo).toUInt8 :: bytes
  | [_] => none

/-- Whether a byte is a decimal digit. -/
def isDigit (b : UInt8) : Bool := 48 ≤ b && b ≤ 57

/-- The value of a decimal numeral; `none` for the empty text or another byte. -/
def toNat? (t : Text) : Option Nat :=
  if t.isEmpty || !t.all isDigit then none
  else some (t.foldl (fun n b => n * 10 + (b.toNat - 48)) 0)

/-! ## Joining, splitting and padding -/

/-- The texts one after another, with a separator between neighbours. -/
def join (sep : Text) : List Text → Text
  | [] => []
  | [t] => t
  | t :: rest => t ++ sep ++ join sep rest

/-- The pieces between the occurrences of a byte; a text without it is one piece. -/
def splitOn (sep : UInt8) : Text → List Text
  | [] => [[]]
  | b :: rest =>
    if b = sep then [] :: splitOn sep rest
    else
      match splitOn sep rest with
      | [] => [[b]]
      | piece :: more => (b :: piece) :: more

/-- The text if the condition holds, and nothing otherwise. -/
def when (condition : Bool) (t : Text) : Text := if condition then t else []

/-- The text with blanks in front, so that it has at least the given length. -/
def padLeft (width : Nat) (t : Text) : Text :=
  List.replicate (width - t.length) 32 ++ t

/-- The text with blanks behind, so that it has at least the given length. -/
def padRight (width : Nat) (t : Text) : Text :=
  t ++ List.replicate (width - t.length) 32

/-- The text repeated a number of times. -/
def times (n : Nat) (t : Text) : Text := (List.replicate n t).flatten

/-- Whether `part` occurs in the text. -/
def hasInfix (part : Text) : Text → Bool
  | [] => part.isEmpty
  | b :: rest => part.isPrefixOf (b :: rest) || hasInfix part rest

/-- What stands before the first occurrence of `part`, and what stands behind it. -/
def cut? (part : Text) : Text → Option (Text × Text)
  | [] => if part.isEmpty then some ([], []) else none
  | b :: rest =>
    if part.isPrefixOf (b :: rest) then some ([], (b :: rest).drop part.length)
    else (cut? part rest).map fun (before, behind) => (b :: before, behind)

/-- Replaces occurrences from left to right, in at most as many steps as the fuel allows. -/
def replaceWithin (old new : Text) : (fuel : Nat) → Text → Text
  | 0, t => t
  | fuel + 1, t =>
    match cut? old t with
    | none => t
    | some (before, behind) => before ++ new ++ replaceWithin old new fuel behind

/-- Every occurrence of a non-empty `old`, from left to right, replaced by `new`. A text holds
no more occurrences than bytes, so its length is fuel enough. -/
def replace (old new t : Text) : Text := replaceWithin old new t.length t

/-! ## Order -/

/-- The bytewise lexicographic comparison. -/
def compare : Text → Text → Ordering
  | [], [] => .eq
  | [], _ :: _ => .lt
  | _ :: _, [] => .gt
  | a :: s, b :: t => if a < b then .lt else if b < a then .gt else compare s t

/-- Whether the first text does not come after the second. -/
def le (s t : Text) : Bool := compare s t != .gt

end Text

end AdtCompiler
