import AdtCompiler.Cache.Entry
import AdtCompiler.Digest.Sha256
import AdtCompiler.Host.Directory
import AdtCompiler.Host.Failure

/-!
# The cache

The cache remembers what the last successful run generated from each source, so that an
unchanged source whose files are still intact can be skipped. An entry is found by a key that
covers everything the generated text depends on.
-/

namespace AdtCompiler

/-- A cache: the directory that holds it. -/
structure DiskCache where
  dir : Text
deriving Repr, DecidableEq

namespace DiskCache

/-- The directory of the cache if none is given: below the one for caches, or else below the
home directory. -/
def defaultDir [Host m] : m (Except Failure Text) := do
  let caches ← Host.environment "XDG_CACHE_HOME"
  if !caches.isEmpty then return .ok (Path.join [caches, "adtc"])
  let home ← Host.environment "HOME"
  if home.isEmpty then
    return .error ((Failure.say "$HOME is not defined" []).during .locatingCache)
  return .ok (Path.join [Path.join [home, ".cache"], "adtc"])

/-- Opens the cache in a directory, and makes the directory if need be. -/
def openIn [Host m] (dir : Text) : m (Except Failure DiskCache) := do
  match ← makeDirs dir with
  | .ok () => return .ok ⟨dir⟩
  | .error e => return .error (.ofFile (.creatingCache dir) e)

/-- Opens the cache in the given directory, or in the default one if none is given. -/
def open? [Host m] (dir : Text) : m (Except Failure DiskCache) := do
  if dir.isEmpty then
    match ← defaultDir with
    | .ok dir => openIn dir
    | .error e => return .error e
  else openIn dir

/-- The file of an entry. -/
def pathFor (c : DiskCache) (key : Text) : Text := Path.join [c.dir, "gen", key.hex ++ ".mp"]

/-- Writes an entry to a new file, and renames it to its place. -/
def put [Host m] (c : DiskCache) (key : Text) (entry : CacheEntry) : m (Option Failure) := do
  let path := c.pathFor key
  match ← makeDirs (Path.parent path) with
  | .error e => return some (.ofFile .creatingEntryDirectory e)
  | .ok () =>
    match ← Host.createTemp (Path.parent path) "tmp-" [] with
    | .error e => return some (.ofFile .creatingEntry e)
    | .ok temp =>
      let giveUp (failure : Failure) : m (Option Failure) := do
        let _ ← Host.close temp
        let _ ← Host.remove temp.name
        return some failure
      match ← Host.append temp entry.pack with
      | .error e => giveUp (.ofFile .writingEntry e)
      | .ok () =>
        match ← Host.close temp with
        | .error e => giveUp (.ofFile .writingEntry e)
        | .ok () =>
          match ← Host.rename temp.name path with
          | .error e => giveUp (.ofCause (.file e))
          | .ok () => return none

/-- The entry of a key, if there is one of the current schema. -/
def get [Host m] (c : DiskCache) (key : Text) : m (Except Failure (Option CacheEntry)) := do
  match ← Host.load (c.pathFor key) with
  | .error e =>
    if e.operation = .reading then
      return .error ((Failure.ofCause .malformedEntry).during .decodingEntry)
    else if e.cause = .notFound then return .ok none
    else return .error (.ofFile .openingEntry e)
  | .ok bytes =>
    match CacheEntry.unpack? bytes with
    | none => return .error ((Failure.ofCause .malformedEntry).during .decodingEntry)
    | some entry =>
      return .ok (if entry.schema = CacheEntry.currentSchema then some entry else none)

/-- Removes all entries. The directory is renamed first, so that no half of it stays in use. -/
def dropAll [Host m] (c : DiskCache) : m (Option Failure) := do
  let old := c.dir ++ ".old-" ++ (← Host.timeStamp)
  match ← Host.rename c.dir old with
  | .error e =>
    if e.cause = .notFound then return none else return some (.ofFile .droppingCache e)
  | .ok () =>
    match ← Host.removeTree old with
    | .error e => return some (.ofCause (.file e))
    | .ok () => return none

end DiskCache

/-- The digest of a file. -/
def fileDigest [Host m] (path : Text) : m (Except FileError Text) := do
  match ← Host.load path with
  | .ok bytes => return .ok (Digest.sha256 bytes)
  | .error e => return .error e

namespace CacheEntry

/-- Whether each file has the digest beside it. -/
def allIntact [Host m] : List (Text × Text) → m Bool
  | [] => return true
  | (path, digest) :: rest => do
    match ← fileDigest path with
    | .ok found => if found = digest then allIntact rest else return false
    | .error _ => return false

/-- Whether all recorded files still hold what was written to them. -/
def isFresh [Host m] (e : CacheEntry) : m Bool := do
  if e.outputList.length ≠ e.digestList.length then return false
  allIntact (e.outputList.zip e.digestList)

end CacheEntry

end AdtCompiler
