import AdtCompiler.Format.MessagePack

/-!
# Cache entries

An entry tells what one successful run generated from a source: the files, and the digests of
what was written to them. It is kept as a binary message, either a mapping by the names of its
parts or a list of the parts in order.

A mapping may give a part more than once, and the last one counts. Digests are read over the
ones that were there before: where the later digest is shorter, the bytes of the earlier one
stay.
-/

namespace AdtCompiler

/-- The record of one successful generation. -/
structure CacheEntry where
  schema : UInt16 := 0
  source : Text := []
  backend : Text := []
  version : Text := []
  /-- The generated files, if any were recorded. -/
  outputs : Option (List Text) := none
  /-- The digests of the generated files, if any were recorded. -/
  digests : Option (List Text) := none
deriving Repr, DecidableEq

namespace CacheEntry

/-- The schema of entries that this version writes and trusts. -/
def currentSchema : UInt16 := 1

/-- The recorded files. -/
def outputList (e : CacheEntry) : List Text := e.outputs.getD []

/-- The recorded digests. -/
def digestList (e : CacheEntry) : List Text := e.digests.getD []

open Format

/-- A list of which there may be none. -/
def packed (items : Option (List Text)) (item : Text → Text) : Text :=
  match items with
  | none => Pack.nothing
  | some items => Pack.list (items.map item)

/-- The entry as a binary message. -/
def pack (e : CacheEntry) : Text :=
  Pack.smallMap
    [("Schema", Pack.number16 e.schema), ("Source", Pack.string e.source),
      ("Backend", Pack.string e.backend), ("Version", Pack.string e.version),
      ("Outputs", packed e.outputs Pack.string), ("OutputHashes", packed e.digests Pack.binary)]

/-- The number of bytes of a digest. -/
def digestSize : Nat := 32

/-- The digest of nothing that was read yet. -/
def blankDigest : Text := List.replicate digestSize 0

/-- A digest that is read over an earlier one. A longer text than a digest is none. -/
def digestOver? (earlier : Text) (t : Text) : Option (Text × Text) := do
  let (length, rest) ← Pack.bytesLength? t
  let n := length.getD 0
  if digestSize < n then none
  let (bytes, rest) ← Pack.take? n rest
  return (bytes ++ earlier.drop n, rest)

/-- A number of digests that are read over earlier ones, and the earlier ones that are left.
Every digest takes a byte at least, so the length of the text is fuel enough. -/
def digestsOver? : (count fuel : Nat) → (earlier : List Text) → Text →
    Option (List Text × List Text × Text)
  | 0, _, earlier, t => some ([], earlier, t)
  | _ + 1, 0, _, _ => none
  | count + 1, fuel + 1, earlier, t => do
    let (first, rest) ← digestOver? (earlier.head?.getD blankDigest) t
    let (more, left, rest) ← digestsOver? count fuel earlier.tail rest
    return (first :: more, left, rest)

/-- A part of an entry. -/
inductive Part where
  | schema
  | source
  | backend
  | version
  | outputs
  | digests

/-- The parts in order. -/
def parts : List Part := [.schema, .source, .backend, .version, .outputs, .digests]

/-- The part of a name. -/
def part? (name : Text) : Option Part :=
  (["Schema", "Source", "Backend", "Version", "Outputs", "OutputHashes"].map Text.ofString
    |>.zip parts).lookup name

/-- An entry that is being read. -/
structure Draft where
  entry : CacheEntry := {}
  /-- All digests that were read since there were none, with those that a shorter list left
  behind it. -/
  slots : List Text := []

/-- Reads one part into an entry. -/
def readPart (d : Draft) (part : Part) (t : Text) : Option (Draft × Text) :=
  let e := d.entry
  let put (entry : CacheEntry) : Draft := { d with entry }
  match part with
  | .schema => (Pack.number? t).map fun (n, rest) => (put { e with schema := n.toUInt16 }, rest)
  | .source => (Pack.string? t).map fun (source, rest) => (put { e with source }, rest)
  | .backend => (Pack.string? t).map fun (backend, rest) => (put { e with backend }, rest)
  | .version => (Pack.string? t).map fun (version, rest) => (put { e with version }, rest)
  | .outputs =>
    (Pack.list? Pack.string? t).map fun (outputs, rest) =>
      (put { e with outputs := outputs <|> e.outputs }, rest)
  | .digests => do
    let (length, rest) ← Pack.listLength? t
    match length with
    | none => return (⟨{ e with digests := none }, []⟩, rest)
    | some n =>
      let (digests, left, rest) ← digestsOver? n rest.length d.slots rest
      return (⟨{ e with digests := some digests }, digests ++ left⟩, rest)

/-- Reads members of a mapping into an entry; members that are no parts are skipped. -/
def readMembers (d : Draft) : (count fuel : Nat) → Text → Option CacheEntry
  | 0, _, _ => some d.entry
  | _ + 1, 0, _ => none
  | count + 1, fuel + 1, t => do
    let (name, rest) ← Pack.string? t
    match part? name with
    | some part =>
      let (d, rest) ← readPart d part rest
      readMembers d count fuel rest
    | none => readMembers d count fuel (← Pack.skipValue rest)

/-- Reads parts in order into an entry. -/
def readParts (d : Draft) : List Part → Text → Option CacheEntry
  | [], _ => some d.entry
  | part :: more, t => do
    let (d, rest) ← readPart d part t
    readParts d more rest

/-- Reads an entry from the front of a text. A message that holds nothing is an entry without
parts. -/
def unpack? (t : Text) : Option CacheEntry :=
  match Pack.mapLength? t with
  | some (none, _) => some {}
  | some (some n, rest) => readMembers {} n rest.length rest
  | none =>
    match Pack.listLength? t with
    | some (some n, rest) =>
      if n = 0 then some {} else if n = parts.length then readParts {} parts rest else none
    | _ => none

end CacheEntry

end AdtCompiler
