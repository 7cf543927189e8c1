import AdtCompiler.Text.Integer
import AdtCompiler.Text.Quoted

/-!
# Semantic versions

A version has three numbers and perhaps labels that mark it as a pre-release. Texts behind a
plus sign tell builds apart and have no meaning here. Versions are read loosely: the second and
third number may be missing, and a `v` may stand in front.
-/

namespace AdtCompiler

/-- A version. One without labels is a release. -/
structure SemVer where
  major : Nat
  minor : Nat
  patch : Nat
  labels : List Text := []
deriving Repr, DecidableEq

/-- Why a text is not a version. -/
inductive SemVerError where
  | malformed
  /-- A label of digits that starts with a zero. -/
  | leadingZero
  /-- A number of more than 64 bits. -/
  | outOfRange (numeral : Text)
deriving Repr, DecidableEq

/-- The message of the error. -/
def SemVerError.message : SemVerError → Text
  | .malformed => "invalid semantic version"
  | .leadingZero => "version segment starts with 0"
  | .outOfRange numeral =>
    "error parsing version segment: strconv.ParseUint: parsing " ++ numeral.quoted ++ ": " ++
      Text.IntegerError.outOfRange.message

namespace SemVer

/-! ## Spelling -/

/-- The parts of a version as they are spelled. Numbers that are missing are missing from the
end. -/
structure Spelling where
  major : Text
  minor : Option Text := none
  patch : Option Text := none
  labels : List Text := []
deriving Repr, DecidableEq

/-- Whether a byte can stand in a label. -/
def isLabelByte (b : UInt8) : Bool :=
  Text.isDigit b || (65 ≤ b && b ≤ 90) || (97 ≤ b && b ≤ 122) || b == Text.byte '-'

/-- Labels with dots between them, as many as there are, and the rest. -/
def scanLabels (t : Text) : Option (List Text × Text) :=
  match t.takeWhile isLabelByte with
  | [] => none
  | label =>
    match _h : t.dropWhile isLabelByte with
    | 46 :: more =>
      match scanLabels more with
      | some (labels, rest) => some (label :: labels, rest)
      | none => some ([label], 46 :: more)
    | rest => some ([label], rest)
termination_by t.length
decreasing_by
  have shorter := (List.dropWhile_suffix (l := t) isLabelByte).length_le
  rw [_h] at shorter
  exact shorter

/-- Labels behind a mark, if the mark and a label are there. -/
def scanMarked (mark : UInt8) : Text → List Text × Text
  | [] => ([], [])
  | b :: rest =>
    if b = mark then (scanLabels rest).getD ([], b :: rest) else ([], b :: rest)

/-- A numeral behind a dot, if both are there. -/
def scanNumeral (digit : UInt8 → Bool) : Text → Option Text × Text
  | [] => (none, [])
  | b :: rest =>
    if b = Text.byte '.' ∧ !(rest.takeWhile digit).isEmpty then
      (some (rest.takeWhile digit), rest.dropWhile digit)
    else (none, b :: rest)

/-- The longest version at the front of a text, and the rest. What counts as a digit is given. -/
def scan? (digit : UInt8 → Bool) (t : Text) : Option (Spelling × Text) :=
  let t := if t.head? = some (Text.byte 'v') then t.drop 1 else t
  match t.takeWhile digit with
  | [] => none
  | major =>
    let (minor, rest) := scanNumeral digit (t.dropWhile digit)
    let (patch, rest) := if minor.isSome then scanNumeral digit rest else (none, rest)
    let (labels, rest) := scanMarked (Text.byte '-') rest
    let (_, rest) := scanMarked (Text.byte '+') rest
    some ({ major, minor, patch, labels }, rest)

/-! ## Reading -/

/-- The value of a numeral. -/
def number (numeral : Text) : Except SemVerError Nat :=
  match Text.readUnsigned (some 10) numeral with
  | .ok n => .ok n
  | .error .malformed => .error .malformed
  | .error .outOfRange => .error (.outOfRange numeral)

/-- Whether a label is a numeral with a zero in front. -/
def startsWithZero (label : Text) : Bool :=
  label.all Text.isDigit && 1 < label.length && label.head? == some (Text.byte '0')

/-- The version that is spelled. Missing numbers are zero. -/
def Spelling.read (s : Spelling) : Except SemVerError SemVer := do
  let major ← number s.major
  let minor ← number (s.minor.getD "0")
  let patch ← number (s.patch.getD "0")
  if s.labels.any startsWithZero then throw .leadingZero
  return { major, minor, patch, labels := s.labels }

/-- Reads a version. -/
def read (t : Text) : Except SemVerError SemVer :=
  match scan? Text.isDigit t with
  | some (spelling, []) => spelling.read
  | _ => .error .malformed

/-! ## Order -/

/-- Whether a version is a pre-release. -/
def isPreRelease (v : SemVer) : Bool := !v.labels.isEmpty

/-- Compares labels: numbers by value, texts bytewise, and a number comes before a text. -/
def compareLabel (a b : Text) : Ordering :=
  match number a, number b with
  | .ok m, .ok n => Ord.compare m n
  | .ok _, .error _ => .lt
  | .error _, .ok _ => .gt
  | .error _, .error _ => Text.compare a b

/-- Compares labels one by one; where one list ends, it comes first. -/
def compareLabels : List Text → List Text → Ordering
  | [], [] => .eq
  | [], _ :: _ => .lt
  | _ :: _, [] => .gt
  | a :: as, b :: bs => (compareLabel a b).then (compareLabels as bs)

/-- Compares versions by their numbers, then by their labels. A release comes after its
pre-releases. -/
def compare (v w : SemVer) : Ordering :=
  (Ord.compare v.major w.major).then <| (Ord.compare v.minor w.minor).then <|
    (Ord.compare v.patch w.patch).then <|
      match v.labels, w.labels with
      | [], [] => .eq
      | [], _ => .gt
      | _, [] => .lt
      | as, bs => compareLabels as bs

end SemVer

end AdtCompiler
