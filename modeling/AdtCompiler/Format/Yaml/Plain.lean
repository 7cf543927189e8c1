import AdtCompiler.Text.Calendar
import AdtCompiler.Text.Fraction

/-!
# What YAML reads a word as

A word of a YAML document that stands without quotes may be read as a number, a truth value, a
date or nothing at all. A text that would be read as such has to be quoted. The words of the
older version of the format are told apart as well, so that both versions read the text back.
-/

namespace AdtCompiler.Format.Yaml

open AdtCompiler.Text (byte)

/-- Words that stand for truth values, for nothing, and for numbers that have no digits. -/
def valueWords : List Text :=
  ["true", "True", "TRUE", "false", "False", "FALSE", "", "~", "null", "Null", "NULL",
    ".nan", ".NaN", ".NAN", ".inf", ".Inf", ".INF", "+.inf", "+.Inf", "+.INF",
    "-.inf", "-.Inf", "-.INF"]

/-- Words that the older version of the format reads as truth values. -/
def oldTruthWords : List Text :=
  ["y", "Y", "yes", "Yes", "YES", "on", "On", "ON",
    "n", "N", "no", "No", "NO", "off", "Off", "OFF"]

/-! ## Fractions -/

/-- Whether a text that starts with a point is read as a fraction. Underscores may separate its
digits. -/
def isFraction (t : Text) : Bool :=
  match Text.fraction? (t.filter (· != byte '_')) with
  | some d => d.isFinite && (!t.contains (byte '_') || Text.hasFairGaps t)
  | none => false

/-! ## Dates -/

/-- One or two digits. -/
def shortNumber? : Text → Option (Nat × Text)
  | a :: b :: rest =>
    if !Text.isDigit a then none
    else if Text.isDigit b then some (Text.digitsValue [a, b], rest)
    else some (Text.digitsValue [a], b :: rest)
  | [a] => if Text.isDigit a then some (Text.digitsValue [a], []) else none
  | [] => none

/-- A byte that must stand here, and what follows it. -/
def expect? (b : UInt8) : Text → Option Text
  | a :: rest => if a = b then some rest else none
  | [] => none

/-- Year, month and day as they are written; four digits for the year. The month must exist,
and the day is compared with it. -/
def date? (t : Text) : Option (Bool × Text) := do
  let (year, rest) := Text.spanDigits t
  if year.length ≠ 4 then none
  let rest ← expect? (byte '-') rest
  let (month, rest) ← shortNumber? rest
  if month = 0 ∨ 12 < month then none
  let rest ← expect? (byte '-') rest
  let (day, rest) ← shortNumber? rest
  return (1 ≤ day && day ≤ Calendar.daysIn (Text.digitsValue year) month, rest)

/-- A clock time with an optional fraction of a second, and what follows it. -/
def clock? (t : Text) : Option Text := do
  let (hour, rest) ← shortNumber? t
  if 24 ≤ hour then none
  let rest ← expect? (byte ':') rest
  let (minute, rest) ← shortNumber? rest
  if 60 ≤ minute then none
  let rest ← expect? (byte ':') rest
  let (second, rest) ← shortNumber? rest
  if 60 ≤ second then none
  match rest with
  | point :: d :: more =>
    if (point = byte '.' ∨ point = byte ',') ∧ Text.isDigit d then
      return more.dropWhile Text.isDigit
    else return rest
  | _ => return rest

/-- Whether a text is a time zone: the letter for universal time, or a signed offset. -/
def isZone : Text → Bool
  | [90] => true
  | [sign, h1, h2, colon, m1, m2] =>
    (sign == byte '+' || sign == byte '-') && colon == byte ':' &&
      [h1, h2, m1, m2].all Text.isDigit && Text.digitsValue [h1, h2] ≤ 24 &&
      Text.digitsValue [m1, m2] ≤ 60
  | _ => false

/-- Whether a text is a date, or a date with a clock time. -/
def isTimestamp (t : Text) : Bool :=
  match date? t with
  | none => false
  | some (exists_, rest) =>
    exists_ &&
      match rest with
      | [] => true
      | b :: more =>
        if b = byte 'T' ∨ b = byte 't' then
          match clock? more with
          | some zone => isZone zone
          | none => false
        else if b = byte ' ' then clock? (more.dropWhile (· == byte ' ')) == some []
        else false

/-! ## Integers and numbers in sixties -/

/-- Whether a text is an integer of 64 bits. -/
def isInteger (base : Option Nat) (t : Text) : Bool :=
  (Text.readSigned base t).toBool || (Text.readUnsigned base t).toBool

/-- Whether what follows a letter that names a base is an integer in it; a minus may stand
before the whole. -/
def isBasedInteger (letter : Char) (base : Nat) (t : Text) : Bool :=
  match t with
  | 48 :: c :: digits => c == byte letter && isInteger (some base) digits
  | 45 :: 48 :: c :: digits =>
    c == byte letter && (Text.readSigned (some base) (byte '-' :: digits)).toBool
  | _ => false

/-- Whether a text that starts with a sign or a digit is read as a number or a date. -/
def isNumber (t : Text) : Bool :=
  let bare := t.filter (· != byte '_')
  isTimestamp t || isInteger none bare ||
    (match Text.fraction? bare with
      | some d => d.isFinite
      | none => false) ||
    isBasedInteger 'b' 2 bare || isBasedInteger 'o' 8 bare

/-- Whether a text is a colon and a number below sixty, again and again, with an optional
fraction at the end. -/
def isSixties : (fuel : Nat) → Text → Bool
  | 0, _ => false
  | fuel + 1, t =>
    let close (rest : Text) : Bool :=
      match rest with
      | [] => true
      | 46 :: fraction => fraction.all fun b => Text.isDigit b || b == byte '_'
      | _ => isSixties fuel rest
    match t with
    | 58 :: a :: b :: rest =>
      if Text.isDigit b then 48 ≤ a && a ≤ 53 && close rest
      else Text.isDigit a && close (b :: rest)
    | [58, a] => Text.isDigit a
    | _ => false

/-- Whether the older version of the format reads a text as a number in sixties. -/
def isSexagesimal (t : Text) : Bool :=
  match (Text.splitSign t).2 with
  | d :: rest =>
    Text.isDigit d &&
      isSixties rest.length (rest.dropWhile fun b => Text.isDigit b || b == byte '_')
  | [] => false

/-! ## The verdict -/

/-- Whether an unquoted word is read as a text, by both versions of the format. -/
def readsAsText (t : Text) : Bool :=
  !valueWords.contains t && !oldTruthWords.contains t && !isSexagesimal t &&
    match t with
    | [] => false
    | b :: _ =>
      if Text.isDigit b || b == byte '+' || b == byte '-' then !isNumber t
      else if b == byte '.' then !isFraction t
      else true

end AdtCompiler.Format.Yaml
