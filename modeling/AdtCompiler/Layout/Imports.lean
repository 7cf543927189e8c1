import AdtCompiler.Layout.DocComment
import AdtCompiler.Layout.Head

/-!
# The order of imports

All imports are gathered in one declaration. Imports on successive lines are sorted and lose
repetitions; an empty line parts them. An import takes its comments along. What is moved gets
the place of what stood there before, and lines that become empty are joined with their
neighbours.

Sorting is done in two ways. The first way sorts by the group of the path before all else and
lets comments follow the import they stand behind. The second way sorts by the path alone and
lets comments that stand on a line of their own go with the import below them.
-/

namespace AdtCompiler.Layout

/-! ## The text of a remark -/

/-- The lines of a comment without its marks. -/
def plainLines (c : Comment) : List Text :=
  let inside := c.text.drop 2
  if c.isLine then
    if inside.head? = some 32 then [inside.drop 1]
    else if isDirective inside then []
    else [inside]
  else Text.splitOn 10 (inside.take (inside.length - 2))

/-- Lines in which empty ones at the start and repeated ones are left out. -/
def dropRepeatedEmpty : (latestEmpty : Bool) → List Text → List Text
  | _, [] => []
  | latestEmpty, line :: rest =>
    if line.isEmpty ∧ latestEmpty then dropRepeatedEmpty true rest
    else line :: dropRepeatedEmpty line.isEmpty rest

/-- The text of a remark, by which imports that are equal otherwise are sorted. -/
def remarkText (g : CommentGroup) : Text :=
  let lines := dropRepeatedEmpty true ((g.flatMap plainLines).map Text.trimRight)
  (DocText.dropEmptyEnds lines).flatMap (· ++ "\n")

/-! ## One declaration -/

/-- Whether a declaration imports what another language provides; it stays by itself. -/
def ImportDecl.isForeign (d : ImportDecl) : Bool := d.specs.any fun s => s.target == ("C" : Text)

/-- Gathers all imports in the first declaration. -/
def Head.gatherImports (h : Head) : Head :=
  let (before, others) := h.imports.span (·.isForeign)
  match others with
  | [] => h
  | first :: rest =>
    let gathered := rest.filter (!·.isForeign)
    if gathered.isEmpty then h
    else
      let moved := gathered.flatMap fun d =>
        d.specs.map fun s => { s with pathStart := first.start }
      let first := { first with opens := some first.start, specs := first.specs ++ moved }
      { h with imports := before ++ first :: rest.filter (·.isForeign) }

/-! ## Sorting -/

/-- What sorting changes: the lines, and the groups of comments. -/
structure Ground where
  lines : LineTable
  comments : List CommentGroup

/-- A group of comments that goes with an import, which is given by its number. -/
structure Companion where
  spec : Nat
  /-- Whether the group stands in front of the import. -/
  ahead : Bool
  group : CommentGroup

/-- How two imports are compared; `grouped` says whether the groups of their paths count. -/
def compareSpecs (grouped : Bool) (a b : ImportSpec) : Ordering :=
  let groups : Ordering :=
    if grouped then compare (pathGroup a.target) (pathGroup b.target) else .eq
  let remark (s : ImportSpec) : Text := (s.remark.map remarkText).getD []
  (groups.then (Text.compare a.target b.target)).then
    ((Text.compare a.nameText b.nameText).then (Text.compare (remark a) (remark b)))

/-- Whether an import says no more than the one behind it. -/
def isRepeated (s next : ImportSpec) : Bool :=
  s.target == next.target && s.nameText == next.nameText && s.remark.isNone

/-- Leaves out repeated imports. The line of one that goes is joined with the next. -/
def dropRepeated (lines : LineTable) :
    List (Nat × ImportSpec) → LineTable × List (Nat × ImportSpec)
  | [] => (lines, [])
  | s :: rest =>
    if rest.head?.any fun next => isRepeated s.2 next.2 then
      dropRepeated (lines.merge (lines.line s.2.start)) rest
    else
      let (lines, rest) := dropRepeated lines rest
      (lines, s :: rest)

/-- The order of groups by their places. -/
def sortGroups (gs : List CommentGroup) : List CommentGroup :=
  gs.mergeSort fun a b => decide (a.start ≤ b.start)

/-- Numbers imports and sorts them. -/
def sortNumbered (grouped : Bool) (specs : List ImportSpec) : List (Nat × ImportSpec) :=
  ((List.range specs.length).zip specs).mergeSort fun a b => compareSpecs grouped a.2 b.2 != .gt

/-- Runs of imports: a new one starts where an empty line stands before an import. -/
def runsOf (lines : LineTable) : List ImportSpec → List (List ImportSpec)
  | [] => []
  | [s] => [[s]]
  | s :: next :: rest =>
    match runsOf lines (next :: rest) with
    | [] => [[s]]
    | run :: more =>
      if 1 + lines.line s.stop < lines.line next.start then [s] :: run :: more
      else (s :: run) :: more

/-- Sorts runs one after another. -/
def sortRuns (sort : Ground → List ImportSpec → Ground × List ImportSpec) (g : Ground)
    (runs : List (List ImportSpec)) : Ground × List ImportSpec :=
  runs.foldl (fun (g, done) run =>
    let (g, run) := sort g run
    (g, done ++ run)) (g, [])

/-! ### The first way -/

/-- The number of the import that stands before an offset, from a number on. -/
def specBefore (spots : List (Nat × Nat)) (offset : Nat) : (steps number : Nat) → Nat
  | 0, number => number
  | steps + 1, number =>
    if (spots[number + 1]?.any fun s => s.1 ≤ offset) then
      specBefore spots offset steps (number + 1)
    else number

/-- The groups of comments between imports, each with the import before it. -/
def companionsBehind (spots : List (Nat × Nat)) (gs : List CommentGroup) : List Companion :=
  (gs.foldl (fun (number, done) g =>
    let number := specBefore spots g.start spots.length number
    (number, done ++ [⟨number, false, g⟩])) (0, ([] : List Companion))).2

/-- Puts imports at their new places, one behind the other, with their comments behind them.
Gives the imports, and the place of the comments of each. -/
def placeInTurn (companions : List Companion) :
    List (Nat × ImportSpec) → List (Nat × Nat) → List ImportSpec × List (Nat × Nat)
  | (number, s) :: rest, (start, stop) :: spots =>
    let comments := (companions.filter fun c => c.spec == number).flatMap (·.group)
    let next := (comments.getLast?.map fun c => stop + c.text.length).getD stop
    let (specs, places) := placeInTurn companions rest ((next, next) :: spots.drop 1)
    (s.moveTo start stop :: specs, (number, stop) :: places)
  | _, _ => ([], [])

/-- Joins the lines between the first of some places and each of the others. -/
def joinLines (lines : LineTable) : List Nat → LineTable
  | [] => lines
  | first :: others =>
    let top := lines.line first
    others.foldl (fun lines offset =>
      let line := lines.line offset
      (List.range (line - top)).foldl (fun lines k =>
        if line - 1 - k < lines.count then lines.merge (line - 1 - k) else lines) lines) lines

/-- Sorts a run of imports in the first way. -/
def sortGrouped (g : Ground) (specs : List ImportSpec) : Ground × List ImportSpec :=
  if specs.length ≤ 1 then (g, specs)
  else
    let spots := specs.map fun s => (s.start, s.stop)
    let begins := (spots.head?.map (·.1)).getD 0
    let lastLine := g.lines.line ((spots.getLast?.map (·.2)).getD 0)
    let (before, rest) := g.comments.span fun c => c.start < begins
    let (inside, behind) := rest.span fun c => g.lines.line c.stop ≤ lastLine
    let companions := companionsBehind spots inside
    let (lines, kept) := dropRepeated g.lines (sortNumbered true specs)
    let (specs, places) := placeInTurn companions kept spots
    let moved := companions.map fun c =>
      match places.find? fun p => p.1 == c.spec with
      | some (_, stop) => c.group.map fun comment => { comment with start := stop }
      | none => c.group
    (⟨joinLines lines (specs.map (·.start)), before ++ sortGroups moved ++ behind⟩, specs)

/-- Sorts the imports of a declaration in the first way. An empty line before the closing bracket
goes. -/
def ImportDecl.sortGrouped (g : Ground) (d : ImportDecl) : Ground × ImportDecl :=
  if d.opens.isNone then (g, d)
  else
    let (g, specs) := sortRuns Layout.sortGrouped g (runsOf g.lines d.specs)
    let lines :=
      match specs.getLast?, d.closes with
      | some last, some closes =>
        let line := g.lines.line closes
        if g.lines.line last.start + 1 < line then g.lines.merge (line - 1) else g.lines
      | _, _ => g.lines
    (⟨lines, g.comments⟩, { d with specs := specs })

/-- Sorts declarations in the first way. One without imports goes, and the one behind it is left
as it is. -/
def sortAllGrouped (g : Ground) : List ImportDecl → Ground × List ImportDecl
  | [] => (g, [])
  | d :: rest =>
    if d.specs.isEmpty then
      match rest with
      | [] => (g, [])
      | next :: rest =>
        let (g, rest) := sortAllGrouped g rest
        (g, next :: rest)
    else
      let (g, d) := d.sortGrouped g
      let (g, rest) := sortAllGrouped g rest
      (g, d :: rest)

/-- Sorts the imports of a head in the first way. -/
def Head.sortGrouped (h : Head) : Head :=
  let (g, imports) := sortAllGrouped ⟨h.lines, h.comments⟩ h.imports
  { h with lines := g.lines, comments := g.comments, imports := imports }

/-! ### The second way -/

/-- The groups of comments around imports, each with the import it goes with: the one before it
on its line, or the one below it. -/
def companionsAround (lines : LineTable) (spots : List (Nat × Nat)) (gs : List CommentGroup) :
    List Companion :=
  (gs.foldl (fun (number, done) g =>
    let number := specBefore spots g.start spots.length number
    let start := (spots[number]?.map (·.1)).getD 0
    if number = 0 ∧ g.start < start then (number, done ++ [⟨number, true, g⟩])
    else if number + 1 < spots.length ∧ lines.line start + 1 = lines.line g.start then
      (number + 1, done ++ [⟨number + 1, true, g⟩])
    else (number, done ++ [⟨number, false, g⟩])) (0, ([] : List Companion))).2

/-- Sorts a run of imports in the second way. -/
def sortPlain (g : Ground) (specs : List ImportSpec) : Ground × List ImportSpec :=
  if specs.length ≤ 1 then (g, specs)
  else
    let spots := specs.map fun s => (s.start, s.stop)
    let begins := g.lines.lineStart (g.lines.line ((spots.head?.map (·.1)).getD 0))
    let stop := (spots.getLast?.map (·.2)).getD 0
    let lastLine := g.lines.line stop
    let ends := if lastLine = g.lines.count then stop else g.lines.lineStart (lastLine + 1)
    let (upTo, behind) := g.comments.span fun c => c.stop < ends
    let (before, inside) := upTo.span fun c => c.start < begins
    let companions := companionsAround g.lines spots inside
    let (lines, kept) := dropRepeated g.lines (sortNumbered false specs)
    let placed := kept.zip spots
    let moved := companions.map fun c =>
      match placed.find? fun p => p.1.1 == c.spec with
      | some (_, start, stop) =>
        c.group.map fun comment => { comment with start := if c.ahead then start - 1 else stop }
      | none => c.group
    (⟨lines, before ++ sortGroups moved ++ behind⟩,
      placed.map fun ((_, s), start, stop) => s.moveTo start stop)

/-- Sorts the imports of a declaration in the second way. The lines before the closing bracket
are joined. -/
def ImportDecl.sortPlain (g : Ground) (d : ImportDecl) : Ground × ImportDecl :=
  if d.opens.isNone then (g, d)
  else
    let (g, specs) := sortRuns Layout.sortPlain g (runsOf g.lines d.specs)
    let lines :=
      match specs.getLast?, d.closes with
      | some last, some closes =>
        let line := g.lines.line closes
        let extra := line - (g.lines.line last.start + 1)
        (List.range extra).foldl (fun lines k => lines.merge (line - 1 - k)) g.lines
      | _, _ => g.lines
    (⟨lines, g.comments⟩, { d with specs := specs })

/-- Sorts declarations in the second way. -/
def sortAllPlain (g : Ground) : List ImportDecl → Ground × List ImportDecl
  | [] => (g, [])
  | d :: rest =>
    let (g, d) := d.sortPlain g
    let (g, rest) := sortAllPlain g rest
    (g, d :: rest)

/-- Sorts the imports of a head in the second way. -/
def Head.sortPlain (h : Head) : Head :=
  let (g, imports) := sortAllPlain ⟨h.lines, h.comments⟩ h.imports
  { h with lines := g.lines, comments := g.comments, imports := imports }

end AdtCompiler.Layout
