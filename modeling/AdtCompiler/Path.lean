import AdtCompiler.Text.Basic

/-!
# Slash-separated paths

Paths are texts with `/` between their elements. Cleaning a path removes empty elements and
`.`, and resolves `..` against the element before it, without looking at any file.
-/

namespace AdtCompiler.Path

/-- The separator of path elements. -/
def slash : UInt8 := 47

/-- Whether a path starts at the root. -/
def isAbsolute : Text → Bool
  | b :: _ => b == slash
  | [] => false

/-- The elements left of a path after one more element. `..` takes back the element before it;
at the root it vanishes, and elsewhere it stays when there is nothing to take back. The
elements are kept latest first. -/
def pushElement (rooted : Bool) (kept : List Text) (element : Text) : List Text :=
  if element = [] ∨ element = "." then kept
  else if element = ".." then
    match kept with
    | [] => if rooted then [] else [element]
    | last :: before => if last = ".." then element :: kept else before
  else element :: kept

/-- The elements of a path after cleaning. -/
def elements (path : Text) : List Text :=
  ((path.splitOn slash).foldl (pushElement (isAbsolute path)) []).reverse

/-- The path of elements, from the root or not; without elements it is the directory itself. -/
def ofElements (rooted : Bool) (elements : List Text) : Text :=
  let body := Text.join [slash] elements
  if rooted then slash :: body
  else if body.isEmpty then "." else body

/-- The shortest path that means the same; the empty path becomes `.`. -/
def clean (path : Text) : Text := ofElements (isAbsolute path) (elements path)

/-- The given parts joined and cleaned, from the first part that is not empty. -/
def join (parts : List Text) : Text :=
  match parts.dropWhile List.isEmpty with
  | [] => []
  | rest => clean (Text.join [slash] rest)

/-- The path of a name in a directory, with one separator between them. -/
def inside (dir name : Text) : Text :=
  if dir.getLast? = some slash then dir ++ name else dir ++ [slash] ++ name

/-- All up to and with the last separator. -/
def untilLastSlash (path : Text) : Text :=
  (path.reverse.dropWhile (· ≠ slash)).reverse

/-- The directory that holds the path's last element. -/
def parent (path : Text) : Text := clean (untilLastSlash path)

/-- The last element of a path. -/
def base (path : Text) : Text :=
  if path.isEmpty then "."
  else
    let trimmed := path.reverse.dropWhile (· = slash)
    if trimmed.isEmpty then [slash] else (trimmed.takeWhile (· ≠ slash)).reverse

end AdtCompiler.Path
