import AdtCompiler.SemVer.Basic

/-!
# Requirements on versions

A requirement lists alternatives with `||` between them. An alternative is a group of
comparisons, all of which have to hold. The version of a comparison may leave numbers open, by
leaving them out or by writing `x`, `X` or `*`. Two versions with a hyphen between them are a
range, which is another way to write two comparisons.

A pre-release is accepted only by groups that mention pre-releases themselves.
-/

namespace AdtCompiler

/-- How a version is compared. -/
inductive VersionOperator where
  | equal
  | notEqual
  | greater
  | less
  | atLeast
  | atMost
  /-- The last given number may grow. -/
  | tilde
  /-- Everything behind the first number that is not zero may grow. -/
  | caret
deriving Repr, DecidableEq

/-- Which numbers of a version are left open. -/
inductive Openness where
  | exact
  | patch
  | minorAndPatch
  | all
deriving Repr, DecidableEq

/-- A comparison with a version; its open numbers are zero. -/
structure VersionComparison where
  operator : VersionOperator
  bound : SemVer
  openness : Openness
deriving Repr, DecidableEq

/-- A requirement: alternative groups of comparisons. -/
structure VersionRequirement where
  groups : List (List VersionComparison)
deriving Repr, DecidableEq

/-- Why a text is not a requirement. -/
inductive RequirementError where
  | improper (part : Text)
  /-- A part of the right shape with a version that is none. -/
  | unreadable
deriving Repr, DecidableEq

/-- The message of the error. -/
def RequirementError.message : RequirementError → Text
  | .improper part => "improper constraint: " ++ part
  | .unreadable => "constraint parser error"

/-! ## Checking -/

namespace VersionComparison

/-- Whether a version comes before the bound. -/
def isBelow (c : VersionComparison) (v : SemVer) : Bool := v.compare c.bound == .lt

/-- Whether a version comes after the bound. -/
def isAbove (c : VersionComparison) (v : SemVer) : Bool := v.compare c.bound == .gt

/-- Whether a version and the bound are equal. -/
def isEqual (c : VersionComparison) (v : SemVer) : Bool := v.compare c.bound == .eq

/-- Whether a version differs from the bound in a number that is not open. -/
def differs (c : VersionComparison) (v : SemVer) : Bool :=
  match c.openness with
  | .exact => !c.isEqual v
  | .all => v.major != c.bound.major || v.minor != c.bound.minor || !c.isEqual v
  | .minorAndPatch => v.major != c.bound.major
  | .patch =>
    v.major != c.bound.major || v.minor != c.bound.minor ||
      SemVer.compareLabels v.labels c.bound.labels != .eq

/-- Whether a version comes after all those that the open bound stands for. -/
def exceeds (c : VersionComparison) (v : SemVer) : Bool :=
  match c.openness with
  | .exact => c.isAbove v
  | .all => c.bound.major < v.major || (v.major == c.bound.major && c.isAbove v)
  | .minorAndPatch => c.bound.major < v.major
  | .patch => c.bound.major < v.major || (v.major == c.bound.major && c.bound.minor < v.minor)

/-- Whether a version does not come after all those that the open bound stands for. -/
def isAtMost (c : VersionComparison) (v : SemVer) : Bool :=
  match c.openness with
  | .exact => !c.isAbove v
  | .minorAndPatch => v.major ≤ c.bound.major
  | .all | .patch =>
    v.major < c.bound.major || (v.major == c.bound.major && v.minor ≤ c.bound.minor)

/-- Whether a version is at least the bound, and agrees with it in the numbers in front of the
last given one. -/
def isNear (c : VersionComparison) (v : SemVer) : Bool :=
  !c.isBelow v &&
    match c.openness with
    | .minorAndPatch => v.major == c.bound.major
    | .patch => v.major == c.bound.major && v.minor == c.bound.minor
    | .exact | .all =>
      (c.bound.major == 0 && c.bound.minor == 0 && c.bound.patch == 0) ||
        (v.major == c.bound.major && v.minor == c.bound.minor)

/-- Whether a version is at least the bound, and agrees with it up to the first number that is
not zero. -/
def isCompatible (c : VersionComparison) (v : SemVer) : Bool :=
  !c.isBelow v &&
    if 0 < c.bound.major || c.openness == .minorAndPatch then v.major == c.bound.major
    else if 0 < v.major then false
    else if 0 < c.bound.minor || c.openness == .patch then v.minor == c.bound.minor
    else v.minor == 0 && v.patch == c.bound.patch

/-- Whether a release satisfies the comparison; a pre-release only if those are looked for. -/
def accepts (c : VersionComparison) (preReleases : Bool) (v : SemVer) : Bool :=
  if v.isPreRelease && !preReleases then false
  else
    match c.operator with
    | .equal => if c.openness = .exact then c.isEqual v else c.isNear v
    | .notEqual => c.differs v
    | .greater => c.exceeds v
    | .less => c.isBelow v
    | .atLeast => !c.isBelow v
    | .atMost => c.isAtMost v
    | .tilde => c.isNear v
    | .caret => c.isCompatible v

end VersionComparison

/-- Whether a version satisfies all comparisons of one of the groups. -/
def VersionRequirement.accepts (r : VersionRequirement) (v : SemVer) : Bool :=
  r.groups.any fun group =>
    group.all fun c => c.accepts (group.any (·.bound.isPreRelease)) v

/-! ## Reading -/

namespace VersionRequirement

/-- Whether a byte is a space between parts. -/
def isGap (b : UInt8) : Bool := b == 9 || b == 10 || b == 12 || b == 13 || b == 32

/-- Whether a byte can stand for a number of a bound. -/
def isDigitOrWild (b : UInt8) : Bool :=
  Text.isDigit b || b == Text.byte 'x' || b == Text.byte 'X' || b == Text.byte '*' ||
    b == Text.byte '|'

/-- The bound at the front of a text, and the rest. -/
def scanBound? (t : Text) : Option (SemVer.Spelling × Text) := SemVer.scan? isDigitOrWild t

/-- Whether a number is left open. -/
def isOpen : Option Text → Bool
  | none => true
  | some t => t = ("x" : Text) || t = ("X" : Text) || t = ("*" : Text)

/-- Which numbers of a bound are open. -/
def openness (s : SemVer.Spelling) : Openness :=
  if isOpen (some s.major) then .all
  else if isOpen s.minor then .minorAndPatch
  else if isOpen s.patch then .patch
  else .exact

/-- The bound with its open numbers and all behind them left out. -/
def closed (s : SemVer.Spelling) : SemVer.Spelling :=
  match openness s with
  | .all => { major := "0", labels := s.labels }
  | .minorAndPatch => { s with minor := none, patch := none }
  | .patch => { s with patch := none }
  | .exact => s

/-- The spellings of operators, the longer ones first. -/
def operators : List (Text × VersionOperator) :=
  [(">=", .atLeast), ("=>", .atLeast), ("<=", .atMost), ("=<", .atMost), ("!=", .notEqual),
    ("~>", .tilde), ("=", .equal), (">", .greater), ("<", .less), ("~", .tilde), ("^", .caret)]

/-- The operator at the front of a text, and the rest. Without one, versions have to be equal. -/
def scanOperator (t : Text) : VersionOperator × Text :=
  match operators.find? fun (spelling, _) => spelling.isPrefixOf t with
  | some (spelling, operator) => (operator, t.drop spelling.length)
  | none => (.equal, t)

/-- The comparison at the front of a text, and the rest. -/
def scanComparison? (t : Text) : Option ((VersionOperator × SemVer.Spelling) × Text) :=
  let (operator, rest) := scanOperator t
  (scanBound? (rest.dropWhile isGap)).map fun (bound, rest) => ((operator, bound), rest)

/-- The comparisons after the first one, with spaces or a comma in front of each. -/
def scanMore? : (fuel : Nat) → Text → Option (List (VersionOperator × SemVer.Spelling))
  | 0, _ => none
  | fuel + 1, t =>
    match t.dropWhile isGap with
    | [] => some []
    | b :: rest => do
      let next ←
        if b = Text.byte ',' then some (rest.dropWhile isGap)
        else if t.head?.any isGap then some (b :: rest)
        else none
      let (comparison, rest) ← scanComparison? next
      return comparison :: (← scanMore? fuel rest)

/-- The comparisons of a group. Each takes up at least one byte, so the length of the text is
fuel enough. -/
def scanGroup? (t : Text) : Option (List (VersionOperator × SemVer.Spelling)) := do
  let (comparison, rest) ← scanComparison? (t.dropWhile isGap)
  return comparison :: (← scanMore? (t.length + 1) rest)

/-- The comparison with a bound that is spelled. -/
def comparison (operator : VersionOperator) (s : SemVer.Spelling) :
    Except RequirementError VersionComparison :=
  match (closed s).read with
  | .ok bound => .ok ⟨operator, bound, openness s⟩
  | .error _ => .error .unreadable

/-- Reads a group. -/
def readGroup (t : Text) : Except RequirementError (List VersionComparison) :=
  match scanGroup? t with
  | some found => found.mapM fun (operator, s) => comparison operator s
  | none => .error (.improper t)

/-- The pieces between double bars. -/
def splitBars : Text → List Text
  | [] => [[]]
  | 124 :: 124 :: rest => [] :: splitBars rest
  | b :: rest =>
    match splitBars rest with
    | [] => [[b]]
    | piece :: more => (b :: piece) :: more

/-- The first of two texts without the second one at its end. -/
def front (whole rest : Text) : Text := whole.take (whole.length - rest.length)

/-- A range at the front of a text, after spaces: its two bounds, and the rest after more
spaces. -/
def rangeAt? (t : Text) : Option (Text × Text × Text) := do
  let start := t.dropWhile isGap
  let (_, rest) ← scanBound? start
  let low := front start rest
  guard (rest.head?.any isGap)
  match rest.dropWhile isGap with
  | 45 :: behind =>
    guard (behind.head?.any isGap)
    let second := behind.dropWhile isGap
    let (_, rest) ← scanBound? second
    return (low, front second rest, rest.dropWhile isGap)
  | _ => none

/-- The ranges of a text, each with the text that it takes up. -/
def ranges : (fuel : Nat) → Text → List (Text × Text × Text)
  | 0, _ => []
  | _ + 1, [] => []
  | fuel + 1, b :: t =>
    match rangeAt? (b :: t) with
    | some (low, high, rest) => (front (b :: t) rest, low, high) :: ranges fuel rest
    | none => ranges fuel t

/-- Writes every range as two comparisons. -/
def expandRanges (t : Text) : Text :=
  (ranges t.length t).foldl
    (fun t (whole, low, high) =>
      match Text.cut? whole t with
      | some (before, behind) => before ++ ">= " ++ low ++ ", <= " ++ high ++ " " ++ behind
      | none => t)
    t

/-- Reads a requirement. -/
def read (t : Text) : Except RequirementError VersionRequirement :=
  ((splitBars (expandRanges t)).mapM readGroup).map fun groups => ⟨groups⟩

end VersionRequirement

end AdtCompiler
