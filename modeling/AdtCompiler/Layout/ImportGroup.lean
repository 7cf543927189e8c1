import AdtCompiler.Layout.Head

/-!
# Groups of imports

Imports of different groups are set apart: an empty line is put before the first import of the
next group. It is put into the text that has been written.
-/

namespace AdtCompiler.Layout

/-- The paths before which the group changes, along the imports of a declaration. `latest` is the
group and the line of the import before. -/
def changesFrom (lines : LineTable) : (latest : Option (Nat × Nat)) → List ImportSpec → List Text
  | _, [] => []
  | latest, s :: rest =>
    let group := pathGroup s.target
    let line := lines.line s.pathStart
    let changes := latest.any fun (g, l) => line ≤ l + 1 && g != group
    (if changes then [s.target] else []) ++ changesFrom lines (some (group, line)) rest

/-- The paths before which an empty line is due. -/
def Head.groupChanges (h : Head) : List Text :=
  h.imports.flatMap fun d => changesFrom h.lines none d.specs

/-- The path on a line of a declaration of imports, if it has one. -/
def pathOnLine? (line : Text) : Option Text :=
  let isSpace (b : UInt8) : Bool := b == 32 || b == 9 || b == 12 || b == 13
  let isNameByte (b : UInt8) : Bool :=
    Text.isDigit b || (65 ≤ b && b ≤ 90) || (97 ≤ b && b ≤ 122) || b == 0x5F || b == 0x2E
  if !line.head?.any isSpace then none
  else
    let line := line.dropWhile isSpace
    let behind := line.dropWhile isNameByte
    let line :=
      if behind.length < line.length ∧ behind.head?.any isSpace then behind.dropWhile isSpace
      else line
    match line with
    | 34 :: b :: rest =>
      let path := b :: rest.takeWhile (· != 34)
      if path.length ≤ rest.length then some path else none
    | _ => none

/-- Puts empty lines before the lines of the given paths, in their order. `inside` says whether
the line stands among imports, and `past` that these have ended. -/
def spaceLines : (inside past : Bool) → (paths : List Text) → List Text → List Text
  | _, _, _, [] => []
  | inside, past, paths, line :: rest =>
    let inside := inside || (!past && ("import" : Text).isPrefixOf line)
    let ends := inside &&
      ([("var" : Text), "func", "const", "type"].any fun w => w.isPrefixOf line)
    let inside := inside && !ends
    let past := past || ends
    match paths with
    | path :: more =>
      if inside ∧ pathOnLine? line = some path then
        [] :: line :: spaceLines inside past more rest
      else line :: spaceLines inside past paths rest
    | [] => line :: rest

/-- Puts empty lines before the given paths. -/
def spaceGroups (paths : List Text) (t : Text) : Text :=
  if paths.isEmpty then t
  else Text.join "\n" (spaceLines false false paths (Text.splitOn 10 t))

end AdtCompiler.Layout
