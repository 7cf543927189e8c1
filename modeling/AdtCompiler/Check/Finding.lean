import AdtCompiler.Text.Basic

/-!
# Findings

A finding is a clash of names in a document. Findings form a set, and they are reported in one
fixed order, by kind, scope, name and counterpart, however they were found.
-/

namespace AdtCompiler

/-- What kind of clash a finding is. -/
inductive FindingKind where
  /-- Two data types or constructors share a name. -/
  | duplicateName
  /-- A constructor has two fields of one name. -/
  | duplicateField
  /-- A data type has a type parameter twice. -/
  | duplicateParam
  /-- A type parameter is spelled like its data type or one of its constructors. -/
  | shadowingParam
  /-- A declared name clashes with a generated one. -/
  | generatedClash
  /-- A kind outside the list, told apart by its code. -/
  | unlisted (code : UInt8) (beyond : 4 < code)
deriving Repr, DecidableEq

namespace FindingKind

/-- The code that orders the kinds. -/
def code : FindingKind → UInt8
  | duplicateName => 0
  | duplicateField => 1
  | duplicateParam => 2
  | shadowingParam => 3
  | generatedClash => 4
  | unlisted c _ => c

/-- The kind of a code. -/
def ofCode (c : UInt8) : FindingKind :=
  if beyond : 4 < c then unlisted c beyond
  else if c = 0 then duplicateName
  else if c = 1 then duplicateField
  else if c = 2 then duplicateParam
  else if c = 3 then shadowingParam
  else generatedClash

/-- The name of the kind. -/
def name : FindingKind → String
  | duplicateName => "duplicate-name"
  | duplicateField => "duplicate-field"
  | duplicateParam => "duplicate-type-param"
  | shadowingParam => "shadowing-type-param"
  | generatedClash => "generated-name-clash"
  | unlisted _ _ => "unknown"

end FindingKind

/-- A clash of names. The scope is the enclosing declaration, empty for the whole document; the
counterpart says what a declared name clashes with. -/
structure Finding where
  kind : FindingKind
  scope : Text
  name : Text
  counterpart : Text
deriving Repr, DecidableEq

namespace Finding

/-- The message of a finding. -/
def message (f : Finding) : Text :=
  match f.kind with
  | .duplicateField =>
    "Constructor " ++ f.scope ++ " cannot have two fields named " ++ f.name
  | .duplicateParam =>
    "Data type " ++ f.scope ++ " cannot have two type parameters named " ++ f.name
  | .shadowingParam =>
    "Type parameter " ++ f.name ++ " of " ++ f.scope ++ " hides a type of the same name"
  | .generatedClash =>
    if f.scope.isEmpty then f.name ++ " clashes with " ++ f.counterpart
    else f.name ++ " in " ++ f.scope ++ " clashes with " ++ f.counterpart
  | .duplicateName | .unlisted _ _ => "Cannot have two declarations named " ++ f.name

/-- The order of reports: by kind, then scope, then name, then counterpart. -/
def compare (a b : Finding) : Ordering :=
  (Ord.compare a.kind.code b.kind.code).then <|
    (Text.compare a.scope b.scope).then <|
      (Text.compare a.name b.name).then (Text.compare a.counterpart b.counterpart)

/-- Whether the first finding may be reported before the second. -/
def le (a b : Finding) : Bool := a.compare b != .gt

end Finding

/-- A set of findings: no finding occurs twice. -/
structure FindingSet where
  items : List Finding
  nodup : items.Nodup
deriving Repr

namespace FindingSet

/-- The set without findings. -/
def empty : FindingSet := ⟨[], .nil⟩

/-- Whether a finding is in the set. -/
def contains (s : FindingSet) (f : Finding) : Bool := s.items.contains f

/-- A finding that is new to a list without repetitions can be added behind it. -/
theorem nodup_concat {items : List Finding} {f : Finding} (nodup : items.Nodup)
    (new : f ∉ items) : (items ++ [f]).Nodup := by
  refine List.pairwise_append.2 ⟨nodup, List.pairwise_singleton _ _, ?_⟩
  intro a ha b hb
  rw [List.mem_singleton] at hb
  rintro rfl
  exact new (hb ▸ ha)

/-- Adds a finding that is not in the set yet. -/
def insert (s : FindingSet) (f : Finding) : FindingSet :=
  if present : f ∈ s.items then s else ⟨s.items ++ [f], nodup_concat s.nodup present⟩

/-- Adds findings one after another. -/
def insertMany (s : FindingSet) (fs : List Finding) : FindingSet := fs.foldl insert s

/-- The set of the findings of a list. -/
def ofList (fs : List Finding) : FindingSet := empty.insertMany fs

/-- The number of findings. -/
def size (s : FindingSet) : Nat := s.items.length

/-- Whether there are no findings. -/
def isEmpty (s : FindingSet) : Bool := s.items.isEmpty

/-- The findings in the order of reports. -/
def sorted (s : FindingSet) : List Finding := s.items.mergeSort Finding.le

/-- All findings in one message, behind the name of their source. -/
def message (source : Text) (s : FindingSet) : Text :=
  source ++ ": " ++ Text.join "; " (s.sorted.map Finding.message)

end FindingSet

end AdtCompiler
