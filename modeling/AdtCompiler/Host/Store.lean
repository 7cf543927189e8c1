import AdtCompiler.Host.FileError
import AdtCompiler.Path
import AdtCompiler.Text.FreshName

/-!
# Files in memory

A store of files and directories with the rules of a file system: a path is followed name by
name from the root or the working directory, every name but the last must be a directory, and a
file that is open keeps its content when its name is taken away or given to another file.

Contents are numbered, a name refers to a number, and an open file holds on to its number.
-/

namespace AdtCompiler

/-- What a path can name. -/
inductive FileKind where
  | directory
  | regular
deriving Repr, DecidableEq

/-- What a name refers to. -/
inductive Node where
  | directory
  /-- A file, by the number of its content. -/
  | file (content : Nat)
deriving Repr, DecidableEq

/-- What a name that refers to a node names. -/
def Node.kind : Node → FileKind
  | directory => .directory
  | file _ => .regular

/-- A place in the tree: the names from the root down. -/
abbrev Place := List Text

/-- An open file: its number, and the path under which it was opened. -/
structure Handle where
  id : Nat
  name : Text
deriving Repr, DecidableEq

/-- Files in memory. The root is a directory and is not listed. -/
structure Store where
  nodes : List (Place × Node) := []
  contents : List (Nat × Text) := []
  /-- Open files, by the number of the handle, with the number of the content. -/
  opened : List (Nat × Nat) := []
  /-- The next free number, for contents, handles and names of new files. -/
  next : Nat := 1
  workingDir : Place := []
deriving Repr, DecidableEq

namespace Store

/-! ## Places -/

/-- What a place holds. -/
def node? (s : Store) (p : Place) : Option Node :=
  if p.isEmpty then some .directory else s.nodes.lookup p

/-- The content of a number. -/
def content (s : Store) (id : Nat) : Text := (s.contents.lookup id).getD []

/-- The longest name that a directory can hold. -/
def maxName : Nat := 255

/-- Follows names from a directory. The last name need not exist. -/
def follow (s : Store) (here : Place) : List Text → Except FileCause Place
  | [] => .ok here
  | name :: rest =>
    if name = ("." : Text) then follow s here rest
    else if name = (".." : Text) then follow s here.dropLast rest
    else if maxName < name.length then .error .nameTooLong
    else
      let next := here ++ [name]
      match s.node? next with
      | some .directory => follow s next rest
      | some (.file _) => if rest.isEmpty then .ok next else .error .notDirectory
      | none => if rest.isEmpty then .ok next else .error .notFound

/-- The names of a path. A slash at its end asks for a directory, like the name for the
directory itself. -/
def names (path : Text) : List Text :=
  let parts := Text.splitOn Path.slash path
  let inner := parts.filter (!·.isEmpty)
  if parts.getLast? = some [] && !inner.isEmpty then inner ++ [("." : Text)] else inner

/-- The place of a path. -/
def place (s : Store) (path : Text) : Except FileCause Place :=
  if path.isEmpty then .error .notFound
  else if path.contains 0 then .error .invalidArgument
  else s.follow (if Path.isAbsolute path then [] else s.workingDir) (names path)

/-- The place of a path and what it holds. -/
def find (s : Store) (path : Text) : Except FileCause (Place × Node) := do
  let p ← s.place path
  match s.node? p with
  | some node => .ok (p, node)
  | none => .error .notFound

/-- The absolute path of a place. -/
def pathOf (p : Place) : Text :=
  if p.isEmpty then "/" else p.flatMap (Path.slash :: ·)

/-- Attaches operation and path to a cause. -/
def blame (operation : FileOperation) (path : Text) : Except FileCause α → Except FileError α
  | .ok a => .ok a
  | .error cause => .error ⟨operation, [path], cause⟩

/-! ## Changes of the tree -/

/-- The place holds the node. -/
def putNode (s : Store) (p : Place) (node : Node) : Store :=
  { s with nodes := s.nodes.filter (·.1 != p) ++ [(p, node)] }

/-- The place holds nothing. -/
def dropNode (s : Store) (p : Place) : Store := { s with nodes := s.nodes.filter (·.1 != p) }

/-- The number has the content. -/
def putContent (s : Store) (id : Nat) (text : Text) : Store :=
  { s with contents := (id, text) :: s.contents.filter (·.1 != id) }

/-- The places below a directory, and what they hold. -/
def below (s : Store) (p : Place) : List (Place × Node) :=
  s.nodes.filter fun (q, _) => p.length < q.length && p.isPrefixOf q

/-- Everything from one place on moves to another. -/
def moveTree (s : Store) (old new : Place) : Store :=
  { s with
    nodes := (s.nodes.filter fun (q, _) => q != new).map fun (q, node) =>
      if old.isPrefixOf q then (new ++ q.drop old.length, node) else (q, node) }

/-! ## Operations -/

/-- What a path names. -/
def status (s : Store) (path : Text) : Except FileError FileKind :=
  blame .stat path do
    match (← s.find path).2 with
    | .directory => .ok .directory
    | .file _ => .ok .regular

/-- The content of a file. -/
def load (s : Store) (path : Text) : Except FileError Text := do
  match (← blame .opening path (s.find path)).2 with
  | .directory => .error ⟨.reading, [path], .isDirectory⟩
  | .file id => .ok (s.content id)

/-- A new directory; the one above it must exist. -/
def makeDir (s : Store) (path : Text) : Except FileError Store :=
  let bare := (path.reverse.dropWhile (· == Path.slash)).reverse
  blame .makeDir path do
    let p ← s.place (if bare.isEmpty then path else bare)
    match s.node? p with
    | some _ => .error .alreadyExists
    | none => .ok (s.putNode p .directory)

/-- The place at which a file can be written. -/
def writable (s : Store) (path : Text) : Except FileCause (Place × Option Nat) := do
  let p ← s.place path
  match s.node? p with
  | some .directory => .error .isDirectory
  | some (.file id) => .ok (p, some id)
  | none => .ok (p, none)

/-- Writes a whole file, new or not. -/
def save (s : Store) (path text : Text) : Except FileError Store :=
  blame .opening path do
    match ← s.writable path with
    | (_, some id) => .ok (s.putContent id text)
    | (p, none) =>
      .ok ({ (s.putNode p (.file s.next)).putContent s.next text with next := s.next + 1 })

/-- The names in a directory in order, each with what it names. -/
def entries (s : Store) (path : Text) : Except FileError (List (Text × FileKind)) := do
  match ← blame .opening path (s.find path) with
  | (_, .file _) => .error ⟨.reading, [path], .notDirectory⟩
  | (p, .directory) =>
    let names := (s.below p).filterMap fun (q, _) =>
      if q.length = p.length + 1 then q.getLast? else none
    .ok ((names.eraseDups.mergeSort Text.le).filterMap fun name =>
      (s.node? (p ++ [name])).map fun node => (name, node.kind))

/-- A name that occurs nowhere in the tree: the start and end with a number between them. Different
numbers give different names, so there is one among as many as there are names, and one more. -/
def newName (s : Store) (start ending : Text) : Text :=
  let taken := s.nodes.flatMap (·.1)
  FreshName.search (fun n => start ++ Text.decimal n ++ ending) taken s.next taken.length

/-- A new file in a directory, under a name that no file has: the start and end of the name with
a number between them. -/
def createTemp (s : Store) (dir start ending : Text) : Except FileError (Store × Handle) :=
  if start.contains Path.slash || ending.contains Path.slash then
    .error ⟨.createTemp, [start ++ "*" ++ ending], .slashInPattern⟩
  else
    let name := s.newName start ending
    let path := Path.inside dir name
    blame .opening path do
      let p ← s.place path
      .ok ({ s.putNode p (.file s.next) with
        opened := (s.next, s.next) :: s.opened
        contents := (s.next, []) :: s.contents
        next := s.next + 1 }, ⟨s.next, path⟩)

/-- Writes behind what an open file holds. -/
def append (s : Store) (h : Handle) (text : Text) : Except FileError Store :=
  match s.opened.lookup h.id with
  | none => .error ⟨.writing, [h.name], .alreadyClosed⟩
  | some id => .ok (s.putContent id (s.content id ++ text))

/-- Closes an open file. -/
def close (s : Store) (h : Handle) : Except FileError Store :=
  match s.opened.lookup h.id with
  | none => .error ⟨.closing, [h.name], .alreadyClosed⟩
  | some _ => .ok { s with opened := s.opened.filter (·.1 != h.id) }

/-- Gives a file or a directory another name. A file under that name is replaced; a directory is
not. -/
def rename (s : Store) (old new : Text) : Except FileError Store :=
  let blamed {α : Type} : Except FileCause α → Except FileError α
    | .ok a => .ok a
    | .error cause => .error ⟨.renaming, [old, new], cause⟩
  blamed do
    let (p, node) ← s.find old
    let q ← s.place new
    match s.node? q with
    | some .directory => .error .alreadyExists
    | target =>
      if p = q then .ok s
      else
        match node with
        | .file _ => .ok ((s.dropNode p).putNode q node)
        | .directory =>
          if p.isPrefixOf q then .error .invalidArgument
          else if target.isSome then .error .notDirectory
          else .ok (s.moveTree p q)

/-- Takes a name away; a directory must be empty. -/
def remove (s : Store) (path : Text) : Except FileError Store :=
  blame .removing path do
    let (p, node) ← s.find path
    if node = .directory ∧ !(s.below p).isEmpty then .error .notEmpty
    else .ok (s.dropNode p)

/-- Takes away a path and everything below it, if it is there. -/
def removeTree (s : Store) (path : Text) : Except FileError Store :=
  if path = ("." : Text) ∨ ("/." : Text).isSuffixOf path then
    .error ⟨.removeTree, [path], .invalidArgument⟩
  else
    match s.find path with
    | .error _ => .ok s
    | .ok (p, _) =>
      .ok { s with nodes := s.nodes.filter fun (q, _) => !p.isPrefixOf q }

/-- Makes a directory the working directory. -/
def changeDir (s : Store) (path : Text) : Except FileError Store :=
  blame .changeDir path do
    match ← s.find path with
    | (p, .directory) => .ok { s with workingDir := p }
    | (_, .file _) => .error .notDirectory

end Store

end AdtCompiler
