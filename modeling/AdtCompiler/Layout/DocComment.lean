import AdtCompiler.Layout.Comment
import AdtCompiler.Layout.Doc.Text

/-!
# Documentation comments

A comment right in front of a declaration documents it. It may hold instructions for tools as
well, which are no documentation.
-/

namespace AdtCompiler.Layout

/-- Whether the text behind two slashes is an instruction for a tool rather than documentation. -/
def isDirective (t : Text) : Bool :=
  ("line " : Text).isPrefixOf t || ("extern " : Text).isPrefixOf t ||
    ("export " : Text).isPrefixOf t ||
    match Text.cut? ":" t with
    | some (tool, b :: _) =>
      let isPart (b : UInt8) : Bool := Text.isDigit b || (97 ≤ b && b ≤ 122)
      !tool.isEmpty && tool.all isPart && isPart b
    | _ => false

/-- Whether every further line of a comment starts with a star. -/
def hasStars (t : Text) : Bool :=
  ((Text.splitOn 10 t).drop 1).all fun line =>
    (line.dropWhile DocText.isGap).head? == some (Text.byte '*')

/-- The line comments of a documentation text that is not empty. -/
def docLines (t : Text) : List Text :=
  (Text.splitOn 10 (dropEnd [10] t)).map fun line =>
    if line.isEmpty then "//"
    else if line.head? = some 9 then "//" ++ line
    else "// " ++ line

/-- Comments that document a declaration, written anew. Instructions for tools come last. A
comment of a single line between stars and one with a star on every line stay as they are, and so
do comments of both kinds together. -/
def documentation? (comments : List Text) : Option (List Text) :=
  match comments with
  | [] => none
  | first :: rest =>
    if ("/*" : Text).isPrefixOf first then
      if !rest.isEmpty ∨ !first.contains 10 ∨ hasStars first then none
      else
        let inside := (first.drop 2).take (first.length - 4)
        some ["/*\n" ++ (DocText.ofText inside).text ++ "*/"]
    else if !comments.all fun c => ("//" : Text).isPrefixOf c then none
    else
      let directives := comments.filter fun c => isDirective (c.drop 2)
      let plain := comments.filter fun c => !isDirective (c.drop 2)
      if plain.isEmpty then none
      else
        let inside := plain.flatMap fun c =>
          let line := c.drop 2
          ((if line.head? = some 32 then line.drop 1 else line) ++ "\n" : Text)
        let written := (DocText.ofText inside).text
        some ((if written.isEmpty then [] else docLines written) ++
          (if directives.isEmpty then [] else ( "//" : Text) :: directives))

end AdtCompiler.Layout
