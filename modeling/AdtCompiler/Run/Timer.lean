import AdtCompiler.Format.Json

/-!
# Timings

The phases of a run in the order in which they began, with the time each of them took. Times
are given in nanoseconds and shown in milliseconds.
-/

namespace AdtCompiler

/-- A phase of a run. -/
structure Phase where
  name : Text
  start : Nat
  duration : Nat := 0
  note : Text := []
deriving Repr, DecidableEq

/-- The phases of a run. -/
structure Timer where
  phases : List Phase := []
deriving Repr

namespace Timer

/-- Begins a phase, and gives its place. -/
def beginPhase (t : Timer) (name : Text) (now : Nat) : Timer × Nat :=
  (⟨t.phases ++ [⟨name, now, 0, []⟩]⟩, t.phases.length)

/-- Ends the phase at a place, if there is one. -/
def endPhase (t : Timer) (place : Int) (note : Text) (now : Nat) : Timer :=
  if place < 0 then t
  else ⟨t.phases.modify place.toNat fun p => { p with duration := now - p.start, note }⟩

/-- The time that all phases took. -/
def total (t : Timer) : Nat := t.phases.foldl (fun sum p => sum + p.duration) 0

/-- A text with blanks behind, so that it has at least the given number of characters. -/
def column (width : Nat) (t : Text) : Text := t ++ Text.times (width - t.runes.length) " "

/-- A time in milliseconds with two decimals. -/
def millis (duration : Nat) : Text :=
  let hundredths := (duration + 5000) / 10000
  Text.decimal (hundredths / 100) ++ "." ++
    [Text.digit (hundredths / 10 % 10), Text.digit (hundredths % 10)]

/-- A line of the table of timings. -/
def line (name : Text) (duration : Nat) (note : Text) : Text :=
  "  " ++ column 20 name ++ " " ++ (millis duration).padLeft 7 ++ " ms" ++
    Text.when (!note.isEmpty) ("  // " ++ note) ++ "\n"

/-- The table of timings. -/
def summary (t : Timer) : Text :=
  "timings:\n" ++ (t.phases.flatMap fun p => line p.name p.duration p.note) ++
    line "total" t.total []

/-- The digits of a fraction without zeros at its end. -/
def fractionDigits (width n : Nat) : Text :=
  let digits := List.replicate (width - (Text.decimal n).length) 48 ++ Text.decimal n
  (digits.reverse.dropWhile (· == 48)).reverse

/-- A time in milliseconds with as many decimals as it has. -/
def exactMillis (duration : Nat) : Text :=
  let fraction := duration % 1000000
  Text.decimal (duration / 1000000) ++
    Text.when (fraction != 0) ("." ++ fractionDigits 6 fraction)

/-- A phase as JSON. -/
def phaseJson (p : Phase) : Format.Json :=
  .obj ([("name", .str p.name), ("duration_ms", .raw (exactMillis p.duration))] ++
    if p.note.isEmpty then [] else [("note", .str p.note)])

/-- The timings as JSON. -/
def json (t : Timer) (kind path : Text) : Text :=
  (Format.Json.obj ([("kind", .str (if kind.isEmpty then "pipeline" else kind))] ++
    (if path.isEmpty then [] else [("path", .str path)]) ++
    [("total_ms", .raw (exactMillis t.total)),
      ("phases", if t.phases.isEmpty then .null else .arr (t.phases.map phaseJson))])).text

end Timer

end AdtCompiler
