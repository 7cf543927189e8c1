import AdtCompiler.Text.Basic

/-!
# Fresh names

Generated code and new files need names of their own that do not clash with those that exist. A
fresh name in generated code is the wanted name, or the wanted name with the smallest number that
makes it free.
-/

namespace AdtCompiler.FreshName

/-- The candidates for a name, in the order in which they are tried. -/
def candidate (base : Text) : (number : Nat) → Text
  | 0 => base
  | n + 1 => base ++ Text.decimal (n + 1)

/-- The first free name of a sequence from a number on. -/
def search (names : Nat → Text) (taken : List Text) (number : Nat) : (fuel : Nat) → Text
  | 0 => names number
  | fuel + 1 =>
    if taken.contains (names number) then search names taken (number + 1) fuel else names number

/-- A name that is not taken. Different numbers give different candidates, so one of the first
`taken.length + 1` candidates is free. -/
def choose (base : Text) (taken : List Text) : Text := search (candidate base) taken 0 taken.length

/-- A name that is not taken, and the names that are taken once it is in use. -/
def reserve (base : Text) (taken : List Text) : Text × List Text :=
  let name := choose base taken
  (name, name :: taken)

/-- Fresh names for several wanted names, each different from the ones chosen before it. -/
def chooseMany (taken : List Text) : List Text → List Text
  | [] => []
  | base :: rest =>
    let (name, taken) := reserve base taken
    name :: chooseMany taken rest

end AdtCompiler.FreshName
