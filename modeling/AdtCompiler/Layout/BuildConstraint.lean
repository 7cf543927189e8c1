import AdtCompiler.Text.Blank
import AdtCompiler.Text.Letter

/-!
# Build constraints

A comment may say for which builds a unit is meant: a condition on tags. There are two
spellings. The newer one is a condition with the signs `&&`, `||` and `!`. In the older one a
line is an alternative of clauses, and a clause is a list of tags with commas between them, all
of which have to hold.
-/

namespace AdtCompiler.Layout

/-- A condition on the tags of a build. -/
inductive Constraint where
  | tag (name : Text)
  | not (x : Constraint)
  | and (x y : Constraint)
  | or (x y : Constraint)
deriving Repr, DecidableEq, Inhabited

namespace Constraint

/-! ## Lines that hold a constraint -/

/-- What follows a keyword, if nothing or white space does. -/
def behindKeyword? (line : Text) : Option Text :=
  let inside := line.trim
  if line.length = inside.length ∧ !line.isEmpty then none else some inside

/-- The condition of a line in the newer spelling, as it is written. -/
def newText? (line : Text) : Option Text :=
  if line.contains 10 ∨ !("//go:build" : Text).isPrefixOf line then none
  else behindKeyword? (List.drop 10 line.trim)

/-- The condition of a line in the older spelling, as it is written. -/
def oldText? (line : Text) : Option Text :=
  if line.contains 10 ∨ !("//" : Text).isPrefixOf line then none
  else
    let inside := Text.trim (line.drop 2)
    if !("+build" : Text).isPrefixOf inside then none else behindKeyword? (inside.drop 6)

/-! ## Reading the newer spelling -/

/-- A sign or a tag of a condition. -/
inductive Symbol where
  | open
  | close
  | not
  | and
  | or
  | tag (name : Text)
deriving Repr, DecidableEq

/-- Whether a character may stand in a tag. -/
def isTagRune : Text.Rune → Bool
  | .scalar c => Text.isLetter c || Text.isNumeral c || c == 0x5F || c == 0x2E
  | .stray _ => false

/-- The signs and tags of a condition. -/
def symbolsWithin? : (fuel : Nat) → Text → Option (List Symbol)
  | _, [] => some []
  | 0, _ => none
  | fuel + 1, b :: rest =>
    if b = 32 ∨ b = 9 then symbolsWithin? fuel rest
    else if b = Text.byte '(' then (symbolsWithin? fuel rest).map (.open :: ·)
    else if b = Text.byte ')' then (symbolsWithin? fuel rest).map (.close :: ·)
    else if b = Text.byte '!' then (symbolsWithin? fuel rest).map (.not :: ·)
    else if b = Text.byte '&' ∨ b = Text.byte '|' then
      if rest.head? = some b then
        (symbolsWithin? fuel rest.tail).map
          ((if b = Text.byte '&' then Symbol.and else Symbol.or) :: ·)
      else none
    else
      let name := ((Text.runes (b :: rest)).takeWhile isTagRune).flatMap Text.Rune.bytes
      if name.isEmpty then none
      else (symbolsWithin? fuel ((b :: rest).drop name.length)).map (.tag name :: ·)

mutual

/-- A condition off the front, and the rest. -/
def orWithin? : (fuel : Nat) → List Symbol → Option (Constraint × List Symbol)
  | 0, _ => none
  | fuel + 1, ss => do
    let (x, ss) ← andWithin? fuel ss
    moreOr? fuel x ss

/-- Further alternatives of a condition. -/
def moreOr? : (fuel : Nat) → Constraint → List Symbol → Option (Constraint × List Symbol)
  | 0, _, _ => none
  | fuel + 1, x, .or :: ss => do
    let (y, ss) ← andWithin? fuel ss
    moreOr? fuel (.or x y) ss
  | _ + 1, x, ss => some (x, ss)

/-- A condition without alternatives off the front, and the rest. -/
def andWithin? : (fuel : Nat) → List Symbol → Option (Constraint × List Symbol)
  | 0, _ => none
  | fuel + 1, ss => do
    let (x, ss) ← notWithin? fuel ss
    moreAnd? fuel x ss

/-- Further members of a condition all of which have to hold. -/
def moreAnd? : (fuel : Nat) → Constraint → List Symbol → Option (Constraint × List Symbol)
  | 0, _, _ => none
  | fuel + 1, x, .and :: ss => do
    let (y, ss) ← notWithin? fuel ss
    moreAnd? fuel (.and x y) ss
  | _ + 1, x, ss => some (x, ss)

/-- A tag or a condition in parentheses, perhaps negated, and the rest. A negation is not
negated again. -/
def notWithin? : (fuel : Nat) → List Symbol → Option (Constraint × List Symbol)
  | 0, _ => none
  | _ + 1, .not :: .not :: _ => none
  | fuel + 1, .not :: ss => do
    let (x, ss) ← atomWithin? fuel ss
    return (.not x, ss)
  | fuel + 1, ss => atomWithin? fuel ss

/-- A tag or a condition in parentheses, and the rest. -/
def atomWithin? : (fuel : Nat) → List Symbol → Option (Constraint × List Symbol)
  | 0, _ => none
  | _ + 1, .tag name :: ss => some (.tag name, ss)
  | fuel + 1, .open :: ss => do
    match ← orWithin? fuel ss with
    | (x, .close :: ss) => some (x, ss)
    | _ => none
  | _ + 1, _ => none

end

/-- The most operands of a condition. -/
def maxOperands : Nat := 1000

/-- The number of operands that are read for a condition: tags and parentheses. -/
def operands (ss : List Symbol) : Nat :=
  (ss.filter fun s => match s with | .tag _ | .open => true | _ => false).length

/-- Reads a condition in the newer spelling. -/
def ofNew? (t : Text) : Option Constraint := do
  let ss ← symbolsWithin? t.length t
  if maxOperands < operands ss then none
  match ← orWithin? (4 * ss.length + 8) ss with
  | (x, []) => some x
  | _ => none

/-! ## Reading the older spelling -/

/-- Whether a text is a tag. -/
def isTag (t : Text) : Bool := !t.isEmpty && t.runes.all isTagRune

/-- A tag, perhaps negated. What is none counts as the tag that no build has. -/
def literal (t : Text) : Constraint :=
  let plain (t : Text) : Constraint := .tag (if isTag t then t else "ignore")
  match t with
  | [33] => .tag "ignore"
  | 33 :: 33 :: _ => .tag "ignore"
  | 33 :: name => .not (plain name)
  | t => plain t

/-- The words of a text between white space. -/
def words (t : Text) : List Text :=
  let (word, words) := t.runes.foldr
    (fun r (word, words) =>
      if r.isBlank then ([], if word.isEmpty then words else word :: words)
      else (r.bytes ++ word, words)) (([], []) : Text × List Text)
  if word.isEmpty then words else word :: words

/-- The most signs of a condition in the older spelling. -/
def maxSigns : Nat := 100

/-- Reads a condition in the older spelling. A line without clauses is the tag that no build
has. -/
def ofOld? (t : Text) : Option Constraint :=
  let clauses := (words t).map fun w => (Text.splitOn (Text.byte ',') w).map literal
  let signs := clauses.foldl (fun n c => n + c.length) 0 - 1
  if maxSigns < signs then none
  else
    let all (c : List Constraint) : Constraint :=
      match c with
      | [] => .tag "ignore"
      | x :: rest => rest.foldl .and x
    match clauses.map all with
    | [] => some (.tag "ignore")
    | x :: rest => some (rest.foldl .or x)

/-- Reads the condition of a line. -/
def ofLine? (line : Text) : Option Constraint :=
  match newText? line with
  | some t => ofNew? t
  | none => (oldText? line).bind ofOld?

/-! ## Writing -/

/-- The condition in the newer spelling. -/
def text : Constraint → Text
  | tag name => name
  | not x =>
    match x with
    | and _ _ | or _ _ => "!(" ++ x.text ++ ")"
    | _ => "!" ++ x.text
  | and x y =>
    let part (z : Constraint) (t : Text) : Text :=
      match z with
      | or _ _ => "(" ++ t ++ ")"
      | _ => t
    part x x.text ++ " && " ++ part y y.text
  | or x y =>
    let part (z : Constraint) (t : Text) : Text :=
      match z with
      | and _ _ => "(" ++ t ++ ")"
      | _ => t
    part x x.text ++ " || " ++ part y y.text

/-- Moves negations down to the tags. -/
def pushNot (negated : Bool) : Constraint → Constraint
  | tag name => if negated then not (tag name) else tag name
  | not x => pushNot (!negated) x
  | and x y =>
    if negated then or (x.pushNot true) (y.pushNot true)
    else and (x.pushNot false) (y.pushNot false)
  | or x y =>
    if negated then and (x.pushNot true) (y.pushNot true)
    else or (x.pushNot false) (y.pushNot false)

/-- The conditions all of which have to hold. -/
def conjuncts : Constraint → List Constraint
  | and x y => x.conjuncts ++ y.conjuncts
  | x => [x]

/-- The conditions one of which has to hold. -/
def disjuncts : Constraint → List Constraint
  | or x y => x.disjuncts ++ y.disjuncts
  | x => [x]

/-- Whether a condition is a tag or a negated one. -/
def isLiteral : Constraint → Bool
  | tag _ => true
  | not _ => true
  | _ => false

/-- The lines of the older spelling, if it can express the condition. Where no line has an
alternative, one line is enough. -/
def oldLines? (x : Constraint) : Option (List Text) :=
  let lines := (x.pushNot false).conjuncts.map fun l => l.disjuncts.map conjuncts
  if lines.all fun l => l.all fun c => c.all isLiteral then
    let lines := if lines.all fun l => l.length ≤ 1 then [[lines.flatten.flatten]] else lines
    some (lines.map fun l =>
      "// +build" ++ l.flatMap fun c => (" " ++ Text.join "," (c.map Constraint.text) : Text))
  else none

end Constraint

end AdtCompiler.Layout
