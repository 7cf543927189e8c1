import AdtCompiler.Text.Basic

/-!
# Reading integers

Integers of 64 bits with an optional sign, in a given base or in the base that their first
characters name. Where the base is named, single underscores may stand between digits.
-/

namespace AdtCompiler.Text

/-- Why a text is not an integer. -/
inductive IntegerError where
  | malformed
  | outOfRange
deriving Repr, DecidableEq

/-- The message of the error. -/
def IntegerError.message : IntegerError → Text
  | .malformed => "invalid syntax"
  | .outOfRange => "value out of range"

/-- The value of a digit in any base up to thirty-six. -/
def digitValue? (b : UInt8) : Option Nat :=
  if 48 ≤ b ∧ b ≤ 57 then some (b.toNat - 48)
  else if 97 ≤ b ∧ b ≤ 122 then some (b.toNat - 87)
  else if 65 ≤ b ∧ b ≤ 90 then some (b.toNat - 55)
  else none

/-- An upper-case ASCII letter in lower case. -/
def lowerByte (b : UInt8) : UInt8 := if 65 ≤ b ∧ b ≤ 90 then b + 32 else b

/-- Reads digits on top of the value of those before. The first value over 64 bits ends the
reading, whatever follows it. -/
def magnitude (base : Nat) (gaps : Bool) : (value : Nat) → Text → Except IntegerError Nat
  | value, [] => .ok value
  | value, b :: rest =>
    if gaps && b == byte '_' then magnitude base gaps value rest
    else
      match digitValue? b with
      | none => .error .malformed
      | some d =>
        if base ≤ d then .error .malformed
        else if Nat.pow 2 64 ≤ value * base + d then .error .outOfRange
        else magnitude base gaps (value * base + d) rest

/-- The base that the first characters of a numeral name, and its digits. -/
def splitBase : Text → Nat × Text
  | 48 :: letter :: d :: rest =>
    if lowerByte letter = byte 'b' then (2, d :: rest)
    else if lowerByte letter = byte 'o' then (8, d :: rest)
    else if lowerByte letter = byte 'x' then (16, d :: rest)
    else (8, letter :: d :: rest)
  | 48 :: rest => (8, rest)
  | t => (10, t)

/-- The sign of a numeral, true for a minus, and what follows it. -/
def splitSign : Text → Bool × Text
  | 43 :: rest => (false, rest)
  | 45 :: rest => (true, rest)
  | t => (false, t)

/-- The place in a numeral, seen from the left: nothing yet, a digit, an underscore, or another
character. -/
inductive GapPlace where
  | start
  | digit
  | gap
  | other
deriving DecidableEq

/-- Whether every underscore stands between two digits. -/
def gapsFrom (hexadecimal : Bool) : GapPlace → Text → Bool
  | place, [] => place != .gap
  | place, b :: rest =>
    if isDigit b || (hexadecimal && (hexValue? b).isSome) then gapsFrom hexadecimal .digit rest
    else if b = byte '_' then place == .digit && gapsFrom hexadecimal .gap rest
    else place != .gap && gapsFrom hexadecimal .other rest

/-- Whether every underscore of a numeral separates digits. A base counts as a digit. -/
def hasFairGaps (t : Text) : Bool :=
  match (splitSign t).2 with
  | 48 :: letter :: rest =>
    if lowerByte letter = byte 'x' then gapsFrom true .digit rest
    else if lowerByte letter = byte 'b' ∨ lowerByte letter = byte 'o' then
      gapsFrom false .digit rest
    else gapsFrom false .digit (letter :: rest)
  | digits => gapsFrom false .start digits

/-- Reads an unsigned integer of 64 bits in the base, or in the base that it names. -/
def readUnsigned (base : Option Nat) (t : Text) : Except IntegerError Nat :=
  if t.isEmpty then .error .malformed
  else
    match base with
    | some base => magnitude base false 0 t
    | none =>
      let (base, digits) := splitBase t
      match magnitude base true 0 digits with
      | .ok value =>
        if !t.contains (byte '_') || hasFairGaps t then .ok value else .error .malformed
      | .error e => .error e

/-- Reads a signed integer of 64 bits in the base, or in the base that it names. -/
def readSigned (base : Option Nat) (t : Text) : Except IntegerError Int :=
  let (negative, digits) := splitSign t
  match readUnsigned base digits with
  | .error e => .error e
  | .ok value =>
    if negative then
      if value ≤ Nat.pow 2 63 then .ok (-(value : Int)) else .error .outOfRange
    else if value < Nat.pow 2 63 then .ok value else .error .outOfRange

/-- The decimal numeral of an integer. -/
def ofInt (n : Int) : Text :=
  if n < 0 then byte '-' :: decimal n.natAbs else decimal n.natAbs

end AdtCompiler.Text
