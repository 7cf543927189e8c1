import AdtCompiler.Layout.BuildConstraint
import AdtCompiler.Layout.Columns

/-!
# Lines with build constraints

Build constraints stand together at the top of a unit, behind the comments that come first. A
constraint in the newer spelling is the one that counts; if there is none, it is made from those
in the older spelling. An empty line follows them.
-/

namespace AdtCompiler.Layout

/-- The lines that hold build constraints, by the places at which they start in a marked text. -/
structure BuildLines where
  newer : List Nat := []
  older : List Nat := []

namespace BuildLines

/-- The line of a marked text that starts at a place, with its end. -/
def lineAt (t : Text) (start : Nat) : Text :=
  let line := (t.drop start).takeWhile (!isLineEnd ·)
  line ++ (t.drop (start + line.length)).take 1

/-- The comment of a marked text that starts at a place. -/
def commentAt (t : Text) (start : Nat) : Text :=
  let t := t.drop start
  let t := if t.head? = some mark then t.drop 1 else t
  t.takeWhile fun b => b != mark && !isLineEnd b

/-- The place behind the last empty line among line comments at the front of a text. Every step
takes a byte away, so a fuel of the length is enough. -/
def placeWithin (start found : Nat) : (fuel : Nat) → Text → Nat
  | 0, _ => found
  | fuel + 1, t =>
    let rest := t.dropWhile fun b => b == 32 || b == 9
    let isComment := ([mark, 0x2F, 0x2F] : Text).isPrefixOf rest && 3 < rest.length
    let rest := if isComment then rest.dropWhile (!isLineEnd ·) else rest
    match rest with
    | [] => found
    | b :: behind =>
      if !isLineEnd b then found
      else
        let next := start + (t.length - behind.length)
        placeWithin next (if isComment then found else next) fuel behind

/-- Where the constraints go: the latest place that is in order, or where the first of them stands
if that is earlier. -/
def placeIn (b : BuildLines) (t : Text) : Nat :=
  let latest := placeWithin 0 0 (t.length + 1) t
  match b.newer, b.older with
  | n :: _, o => if n < latest then n else (o.head?.filter (· < latest)).getD latest
  | [], o => (o.head?.filter (· < latest)).getD latest

/-- The constraint that counts, if there is one. -/
def constraint? (b : BuildLines) (t : Text) : Option Constraint :=
  match b.newer with
  | [] =>
    match b.older.mapM fun n => Constraint.ofLine? (commentAt t n) with
    | some (x :: xs) => some (xs.foldl .and x)
    | _ => none
  | [n] => Constraint.ofLine? (commentAt t n)
  | _ => none

/-- A line with a comment, marked. -/
def commentLine (t : Text) : Text := mark :: t ++ [mark, 10]

/-- The constraints in both spellings, and an empty line. -/
def block (b : BuildLines) (t : Text) : Text :=
  match b.constraint? t with
  | none => (b.newer ++ b.older).flatMap (lineAt t) ++ "\n"
  | some x =>
    let older := x.oldLines?.getD ["// +build error: expression too complex for // +build lines"]
    commentLine ("//go:build " ++ x.text) ++
      (if b.older.isEmpty then [] else older.flatMap commentLine) ++ "\n"

/-- Lines behind others. An empty line at their start goes if there is one before them already. -/
def appendLines (x y : Text) : Text :=
  let ended : Bool := match x.reverse with
    | [] => true
    | a :: b :: _ => isLineEnd a && isLineEnd b
    | _ => false
  if ended ∧ y.head?.any isLineEnd then x ++ y.drop 1 else x ++ y

/-- A text from a place on, without the lines at some places, which are in order. -/
def textWithout (t : Text) : (start : Nat) → (done : Text) → List Nat → Text
  | start, done, [] => appendLines done (t.drop start)
  | start, done, n :: rest =>
    if n < start then textWithout t start done rest
    else
      textWithout t (n + (lineAt t n).length)
        (appendLines done ((t.drop start).take (n - start))) rest

/-- Brings the lines with build constraints together. -/
def gather (b : BuildLines) (t : Text) : Text :=
  if b.newer.isEmpty ∧ b.older.isEmpty then t
  else
    let place := b.placeIn t
    let lines := (b.newer ++ b.older).mergeSort fun m n => decide (m ≤ n)
    t.take place ++ b.block t ++ textWithout t place [] lines

end BuildLines

end AdtCompiler.Layout
