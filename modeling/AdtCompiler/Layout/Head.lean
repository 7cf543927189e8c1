import AdtCompiler.Layout.Lexeme

/-!
# Heads of units

The head of a unit is its text up to the keyword of its first declaration: the package, the
imports, and comments. Comments stand in groups. A group on the line of a part remarks on it, and
a group that ends on the line before a part documents it.
-/

namespace AdtCompiler.Layout

/-! ## Groups of comments -/

/-- Where a group starts. -/
def CommentGroup.start (g : CommentGroup) : Nat := (g.head?.map (·.start)).getD 0

/-- The offset behind a group. -/
def CommentGroup.stop (g : CommentGroup) : Nat := (g.getLast?.map (·.stop)).getD 0

/-- Takes the group at the front of comments: a comment belongs to it if at most `gap` line ends
stand before it. Gives the group, its last line, and the other comments. -/
def takeGroup (numbers : LineNumbers) (gap : Nat) :
    (last : Nat) → List Comment → CommentGroup × Nat × List Comment
  | last, [] => ([], last, [])
  | last, c :: rest =>
    let line := numbers.line c.start
    if last + gap < line then ([], last, c :: rest)
    else
      let (g, last, rest) := takeGroup numbers gap (line + if c.isLine then 0 else c.breaks) rest
      (c :: g, last, rest)

/-- The groups of comments with at most one line end between neighbours, each with its last
line. Every group has a comment, so a fuel of the number of comments is enough. -/
def groupsWithin (numbers : LineNumbers) : (fuel : Nat) → List Comment → List (CommentGroup × Nat)
  | 0, _ => []
  | _ + 1, [] => []
  | fuel + 1, c :: rest =>
    let (g, last, behind) := takeGroup numbers 1 (numbers.line c.start) (c :: rest)
    (g, last) :: groupsWithin numbers fuel behind

/-- The groups of comments. -/
def groupsOf (numbers : LineNumbers) (cs : List Comment) : List (CommentGroup × Nat) :=
  groupsWithin numbers cs.length cs

/-! ## Parts with their comments -/

/-- A part of the head that is no comment: what it is, where it starts and its text, the group
that remarks on the part before it, and whether a group documents it. -/
structure Token where
  sign : Sign
  start : Nat
  text : Text
  remark : Option CommentGroup
  documented : Bool
deriving Repr, DecidableEq

/-- Reads the comments in front of a part; `line` is the line of the part before it, or zero.
Gives the remark on the part before, the groups, and whether the part is documented. -/
def commentsBefore (numbers : LineNumbers) (line : Nat) (cs : List Comment) (sign : Sign)
    (start : Nat) : Option CommentGroup × List CommentGroup × Bool :=
  let besides : CommentGroup × Nat × List Comment :=
    match cs with
    | [] => ([], 0, [])
    | c :: _ => if numbers.line c.start = line then takeGroup numbers 0 line cs else ([], 0, cs)
  let (beside, last, cs) := besides
  let isStop : Bool := match sign with
    | .stop _ => cs.isEmpty
    | _ => false
  let next := numbers.line ((cs.head?.map (·.start)).getD start)
  let remark := if !beside.isEmpty ∧ (next ≠ last ∨ isStop) then some beside else none
  let others := groupsOf numbers cs
  let documented := others.getLast?.any fun (_, last) => last + 1 == numbers.line start
  (remark, (if beside.isEmpty then [] else [beside]) ++ others.map (·.1), documented)

/-- The numbers that are given for lines. -/
def marksOf (parts : List Lexeme) : List (Nat × Nat) :=
  parts.filterMap fun
    | .mark offset line => some (offset, line)
    | _ => none

/-- The parts and the groups of comments. `line` is the line of the part before, or zero, and
`waiting` holds the comments since then, backwards. -/
def attachComments (numbers : LineNumbers) :
    (line : Nat) → (waiting : List Comment) → List Lexeme → List Token × List CommentGroup
  | _, waiting, [] => ([], (groupsOf numbers waiting.reverse).map (·.1))
  | line, waiting, .comment c :: rest => attachComments numbers line (c :: waiting) rest
  | line, waiting, .mark _ _ :: rest => attachComments numbers line waiting rest
  | line, waiting, .token sign start text :: rest =>
    let (remark, groups, documented) := commentsBefore numbers line waiting.reverse sign start
    let (tokens, more) := attachComments numbers (numbers.line start) [] rest
    (⟨sign, start, text, remark, documented⟩ :: tokens, groups ++ more)

/-! ## Imports -/

/-- An import: a name for it, with its place, and the path. -/
structure ImportSpec where
  name : Option (Nat × Text)
  pathStart : Nat
  path : Text
  /-- The offset behind it, where that is not the end of the path. -/
  ending : Option Nat := none
  remark : Option CommentGroup := none
deriving Repr, DecidableEq

namespace ImportSpec

/-- Where an import starts. -/
def start (s : ImportSpec) : Nat := (s.name.map (·.1)).getD s.pathStart

/-- The offset behind an import. -/
def stop (s : ImportSpec) : Nat := s.ending.getD (s.pathStart + s.path.length)

/-- The path that is meant. -/
def target (s : ImportSpec) : Text := unquote s.path

/-- The name, empty where there is none. -/
def nameText (s : ImportSpec) : Text := (s.name.map (·.2)).getD []

/-- The import at another place. -/
def moveTo (s : ImportSpec) (start stop : Nat) : ImportSpec :=
  { s with name := s.name.map fun (_, t) => (start, t), pathStart := start, ending := some stop }

end ImportSpec

/-- A declaration of imports, with the places of its brackets. -/
structure ImportDecl where
  start : Nat
  opens : Option Nat
  specs : List ImportSpec
  closes : Option Nat
  documented : Bool
deriving Repr, DecidableEq

/-- A head: the places of its lines, the package, the imports, the place of the first
declaration, and the groups of comments in order. -/
structure Head where
  lines : LineTable
  packageStart : Nat
  name : Nat × Text
  imports : List ImportDecl
  declStart : Nat
  comments : List CommentGroup

namespace Head

/-! ## Reading -/

/-- Reads the end of a statement, and the remark on it. Before a closing bracket there need be
none. -/
def endOf? : List Token → Option (Option CommentGroup × List Token)
  | [] => none
  | t :: rest =>
    match t.sign with
    | .stop true => some (rest.head?.bind (·.remark), rest)
    | .stop false => some (t.remark, rest)
    | .closing => some (none, t :: rest)
    | _ => none

/-- Reads the name of an import. -/
def specName : List Token → Option (Nat × Text) × List Token
  | [] => (none, [])
  | t :: rest =>
    if t.sign = .dot ∨ (t.sign = .word ∧ Go.isName t.text) then (some (t.start, t.text), rest)
    else (none, t :: rest)

/-- Reads an import. -/
def spec? (ts : List Token) : Option (ImportSpec × List Token) :=
  match specName ts with
  | (_, []) => none
  | (name, t :: rest) =>
    if t.sign ≠ .string then none
    else (endOf? rest).map fun (remark, rest) =>
      ({ name := name, pathStart := t.start, path := t.text, remark := remark }, rest)

/-- Reads imports up to a closing bracket, which stays. -/
def specsWithin? : (fuel : Nat) → List Token → Option (List ImportSpec × List Token)
  | 0, _ => none
  | fuel + 1, ts =>
    if (ts.head?.map (·.sign)) = some .closing then some ([], ts)
    else do
      let (s, rest) ← spec? ts
      let (more, rest) ← specsWithin? fuel rest
      return (s :: more, rest)

/-- Reads declarations of imports. -/
def importsWithin? : (fuel : Nat) → List Token → Option (List ImportDecl × List Token)
  | fuel + 1, t :: rest =>
    if t.sign = .word ∧ t.text = ("import" : Text) then do
      let (d, rest) ←
        match rest with
        | ⟨.opening, opens, _, _, _⟩ :: inside => do
          let (specs, behind) ← specsWithin? (inside.length + 1) inside
          let (_, rest) ← endOf? behind.tail
          pure (⟨t.start, some opens, specs, behind.head?.map (·.start), t.documented⟩, rest)
        | _ => do
          let (s, rest) ← spec? rest
          pure (⟨t.start, none, [s], none, t.documented⟩, rest)
      let (more, rest) ← importsWithin? fuel rest
      return (d :: more, rest)
    else some ([], t :: rest)
  | _, ts => some ([], ts)

/-- Reads a head, which ends with the keyword of the first declaration. -/
def read? (t : Text) : Option Head := do
  let lines := LineTable.ofText t
  let parts ← lexemes? lines t
  let numbers : LineNumbers := ⟨lines, (marksOf parts).reverse⟩
  let (tokens, comments) := attachComments numbers 0 [] parts
  match tokens with
  | package :: name :: rest =>
    if package.sign ≠ .word ∨ package.text ≠ ("package" : Text) ∨ name.sign ≠ .word ∨
        !Go.isName name.text then none
    let (_, rest) ← endOf? rest
    let (imports, rest) ← importsWithin? (rest.length + 1) rest
    match rest with
    | [last] =>
      if last.text ≠ ("type" : Text) then none
      return ⟨lines, package.start, (name.start, name.text), imports, last.start, comments⟩
    | _ => none
  | _ => none

end Head

end AdtCompiler.Layout
