import AdtCompiler.Text.Basic
import AdtCompiler.Text.Calendar

/-!
# Dates and times in settings

A date, a time, both, or both with the distance from universal time. Only whether a text is one
of these matters here, because no setting is a date or a time.
-/

namespace AdtCompiler.Format.Toml

/-- A number of exactly two digits, and the rest. -/
def twoDigits? : Text → Option (Nat × Text)
  | a :: b :: rest =>
    if Text.isDigit a && Text.isDigit b then some ((a.toNat - 48) * 10 + (b.toNat - 48), rest)
    else none
  | _ => none

/-- A number of one or two digits, and the rest. -/
def upToTwoDigits? (t : Text) : Option (Nat × Text) :=
  match twoDigits? t with
  | some found => some found
  | none =>
    match t with
    | a :: rest => if Text.isDigit a then some (a.toNat - 48, rest) else none
    | [] => none

/-- The text behind a byte that has to be there. -/
def behind? (c : Char) : Text → Option Text
  | b :: rest => if b = Text.byte c then some rest else none
  | [] => none

/-- What follows a date. -/
def afterDate? (t : Text) : Option Text := do
  guard ((t.take 4).length = 4)
  let year ← Text.toNat? (t.take 4)
  let rest ← behind? '-' (t.drop 4)
  let (month, rest) ← twoDigits? rest
  guard (1 ≤ month ∧ month ≤ 12)
  let rest ← behind? '-' rest
  let (day, rest) ← twoDigits? rest
  guard (1 ≤ day ∧ day ≤ Calendar.daysIn year month)
  return rest

/-- What follows a time, with or without parts of a second. -/
def afterTime? (t : Text) : Option Text := do
  let (hour, rest) ← upToTwoDigits? t
  guard (hour < 24)
  let rest ← behind? ':' rest
  let (minute, rest) ← twoDigits? rest
  guard (minute < 60)
  let rest ← behind? ':' rest
  let (second, rest) ← twoDigits? rest
  guard (second < 60)
  match rest with
  | 46 :: d :: more =>
    return if Text.isDigit d then more.dropWhile Text.isDigit else 46 :: d :: more
  | _ => return rest

/-- What follows the distance from universal time. -/
def afterZone? (t : Text) : Option Text :=
  match behind? 'Z' t with
  | some rest => some rest
  | none => do
    let rest ← (behind? '+' t).or (behind? '-' t)
    let (hours, rest) ← twoDigits? rest
    guard (hours ≤ 24)
    let rest ← behind? ':' rest
    let (minutes, rest) ← twoDigits? rest
    guard (minutes ≤ 60)
    return rest

/-- What follows a date and a time. -/
def afterDateTime? (t : Text) : Option Text := do
  afterTime? (← behind? 'T' (← afterDate? t))

/-- The marks of a date and a time in their usual spelling. -/
def usualMark (b : UInt8) : UInt8 :=
  if b = Text.byte 't' ∨ b = Text.byte ' ' then Text.byte 'T'
  else if b = Text.byte 'z' then Text.byte 'Z'
  else b

/-- The text without blanks at its end. -/
def dropBlankEnd (t : Text) : Text := (t.reverse.dropWhile (· == 32)).reverse

/-- Whether a text is a date, a time, or both. -/
def isMoment (t : Text) : Bool :=
  let t := (dropBlankEnd t).map usualMark
  (afterDateTime? t).bind afterZone? == some [] || afterDateTime? t == some [] ||
    afterDate? t == some [] || afterTime? t == some []

end AdtCompiler.Format.Toml
