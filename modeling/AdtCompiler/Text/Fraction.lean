import AdtCompiler.Text.Integer

/-!
# Decimal fractions

Numerals with digits behind a point or with an exponent, and whether double precision can hold
their values.
-/

namespace AdtCompiler.Text

/-- A decimal number: its digits as one integer, times a power of ten. -/
structure Fraction where
  digits : Nat
  exponent : Int
deriving Repr, DecidableEq

/-- Whether a number is within the range of double precision, rounding to nearest. The first
number that is not lies half a step above the greatest double. -/
def Fraction.isFinite (d : Fraction) : Bool :=
  let limit := (Nat.pow 2 54 - 1) * Nat.pow 2 970
  let power := Nat.pow 10 d.exponent.natAbs
  if d.exponent < 0 then d.digits < limit * power else d.digits * power < limit

/-- The digits at the head of a text, and what follows them. -/
def spanDigits (t : Text) : Text × Text := t.span isDigit

/-- The value of a run of digits. -/
def digitsValue (ds : Text) : Nat := ds.foldl (fun n b => n * 10 + (b.toNat - 48)) 0

/-- The value of the digits of an exponent, held below a bound that is out of range anyway. -/
def exponentValue (ds : Text) : Nat :=
  ds.foldl (fun n b => if n < 10000 then n * 10 + (b.toNat - 48) else n) 0

/-- Reads a whole text as digits with an optional fraction and an optional exponent; digits must
stand before or behind the point. The sign is left out of account. -/
def fraction? (t : Text) : Option Fraction :=
  let (whole, rest) := spanDigits (splitSign t).2
  let (places, rest) :=
    match rest with
    | 46 :: more => spanDigits more
    | _ => ([], rest)
  if whole.isEmpty && places.isEmpty then none
  else
    let digits := digitsValue (whole ++ places)
    match rest with
    | [] => some ⟨digits, -places.length⟩
    | e :: power =>
      if lowerByte e ≠ byte 'e' then none
      else
        let (negative, ds) := splitSign power
        if ds.isEmpty || !ds.all isDigit then none
        else
          let size : Int := exponentValue ds
          some ⟨digits, (if negative then -size else size) - places.length⟩

end AdtCompiler.Text
