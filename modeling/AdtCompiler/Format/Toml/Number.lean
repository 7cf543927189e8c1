import AdtCompiler.Text.Fraction

/-!
# Numbers in settings

Integers of 64 bits in four bases, and decimal fractions that fit a double. Single underscores
may stand between digits, and a decimal numeral has no zero in front. The scanners take the
longest run of bytes that may belong to a number; whether it is one is decided on the whole run.
-/

namespace AdtCompiler.Format.Toml

/-- Whether every underscore follows a digit and the last byte is a digit. `digitBefore` tells
whether a digit stands in front. -/
def underscoresFrom : (digitBefore : Bool) → Text → Bool
  | digitBefore, [] => digitBefore
  | digitBefore, b :: rest =>
    (b != Text.byte '_' || digitBefore) && underscoresFrom (Text.hexValue? b).isSome rest

/-- Whether the underscores of a numeral separate digits. -/
def hasFairUnderscores (t : Text) : Bool := underscoresFrom false t

/-- Whether a byte names a base other than ten. -/
def isBaseLetter (b : UInt8) : Bool :=
  b == Text.byte 'b' || b == Text.byte 'o' || b == Text.byte 'x'

/-- Whether a numeral has a zero in front. -/
def hasLeadingZero : Text → Bool
  | 48 :: b :: _ => !isBaseLetter b
  | sign :: 48 :: _ :: _ => sign == Text.byte '-' || sign == Text.byte '+'
  | _ => false

/-- The value of an integer numeral. -/
def integer? (t : Text) : Option Int :=
  if !hasFairUnderscores t || hasLeadingZero t then none
  else (Text.readSigned none t).toOption

/-! ## Fractions -/

/-- Whether a byte ends a part of a fraction. -/
def isPartEnd (b : UInt8) : Bool :=
  b == Text.byte '.' || b == Text.byte 'e' || b == Text.byte 'E'

/-- The parts of a fraction that are not empty. -/
def fractionParts (t : Text) : List Text :=
  (Text.splitOn (Text.byte '.') (t.map fun b => if isPartEnd b then Text.byte '.' else b)).filter
    (!·.isEmpty)

/-- Whether a digit follows every point. `afterPoint` tells whether a point stands in front. -/
def pointsFrom : (afterPoint : Bool) → Text → Bool
  | afterPoint, [] => !afterPoint
  | afterPoint, b :: rest => (!afterPoint || Text.isDigit b) && pointsFrom (b == Text.byte '.') rest

/-- Whether a numeral is a fraction. -/
def isFraction (t : Text) : Bool :=
  let parts := fractionParts t
  parts.all hasFairUnderscores && !(parts.head?.any hasLeadingZero) && pointsFrom false t &&
    (Text.fraction? (t.filter (· != Text.byte '_'))).any Text.Fraction.isFinite

/-! ## Scanning -/

/-- What a run of bytes is meant to be. -/
inductive NumberShape where
  | integer
  | fraction
  | moment
deriving Repr, DecidableEq

/-- The bytes that satisfy a condition, after those read before, and the rest. -/
def takeRun (before : Text) (p : UInt8 → Bool) (t : Text) : Text × Text :=
  (before ++ t.takeWhile p, t.dropWhile p)

/-- Whether a byte can stand in a fraction, from its point or exponent on. -/
def isFractionByte (b : UInt8) : Bool :=
  Text.isDigit b || isPartEnd b || b == Text.byte '_' || b == Text.byte '-' || b == Text.byte '+'

/-- Whether a byte can stand in a date or a time, from the first mark on. -/
def isMomentByte (b : UInt8) : Bool :=
  Text.isDigit b ||
    [ '-', ':', 'T', 't', ' ', '.', 'Z', 'z', '+'].any fun c => Text.byte c == b

/-- Takes what follows the digits of a decimal number. -/
def scanAfterDigits (before t : Text) : NumberShape × Text × Text :=
  match t with
  | b :: _ =>
    if isPartEnd b then (.fraction, takeRun before isFractionByte t) else (.integer, before, t)
  | [] => (.integer, before, t)

/-- Takes a decimal number without date or time. -/
def scanDecimal (before t : Text) : NumberShape × Text × Text :=
  let (before, t) := takeRun before (fun b => Text.isDigit b || b == Text.byte '_') t
  scanAfterDigits before t

/-- Takes a decimal number, a date or a time. -/
def scanDecimalOrMoment (t : Text) : NumberShape × Text × Text :=
  let (digits, rest) := takeRun [] Text.isDigit t
  match rest with
  | b :: _ =>
    if b = Text.byte '_' then scanDecimal digits rest
    else if (b = Text.byte '-' ∨ b = Text.byte ':') ∧ digits ≠ [48] then
      (.moment, takeRun digits isMomentByte rest)
    else scanAfterDigits digits rest
  | [] => (.integer, digits, [])

/-- The greatest digit of the base that a letter names, as a byte condition. -/
def isDigitOfBase (letter b : UInt8) : Bool :=
  if letter = Text.byte 'b' then b == 48 || b == 49
  else if letter = Text.byte 'o' then 48 ≤ b && b ≤ 55
  else (Text.hexValue? b).isSome

/-- Takes a number, a date or a time from a text that starts with a digit or a sign. A sign goes
with decimal numbers only. -/
def scanNumber? (t : Text) : Option (NumberShape × Text × Text) :=
  match t with
  | 48 :: letter :: rest =>
    if isBaseLetter letter then
      if rest.head?.any (isDigitOfBase letter) then
        some (.integer,
          takeRun [48, letter] (fun b => isDigitOfBase letter b || b == Text.byte '_') rest)
      else none
    else some (scanDecimalOrMoment t)
  | b :: rest =>
    if b = Text.byte '+' ∨ b = Text.byte '-' then
      match rest with
      | 48 :: letter :: _ => if isBaseLetter letter then none else some (scanDecimal [b] rest)
      | d :: _ => if Text.isDigit d then some (scanDecimal [b] rest) else none
      | [] => none
    else some (scanDecimalOrMoment t)
  | [] => none

end AdtCompiler.Format.Toml
