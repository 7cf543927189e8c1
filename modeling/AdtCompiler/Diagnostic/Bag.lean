import AdtCompiler.Diagnostic.Basic

/-!
# Bags of diagnostics

A bag collects diagnostics up to a limit, in the order in which they arrive.
-/

namespace AdtCompiler

/-- Diagnostics with the greatest number of them that may be added one by one. -/
structure Bag where
  items : List Diagnostic
  limit : Nat
deriving Repr

namespace Bag

/-- The greatest limit for which room can be set aside. -/
def maxLimit : Nat := Nat.pow 2 42

/-- A bag without diagnostics. There is none for a negative limit, or for one that no memory
could hold. -/
def create? (limit : Int) : Option Bag :=
  if limit < 0 ∨ (maxLimit : Int) < limit then none else some ⟨[], limit.toNat⟩

/-- The number of diagnostics. -/
def size (b : Bag) : Nat := b.items.length

/-- Adds a diagnostic unless the bag is full, and says whether it did. -/
def add (b : Bag) (d : Diagnostic) : Bag × Bool :=
  if b.limit ≤ b.size then (b, false) else ({ b with items := b.items ++ [d] }, true)

/-- Adds diagnostics one after another. -/
def addMany (b : Bag) (ds : List Diagnostic) : Bag := ds.foldl (fun b d => (b.add d).1) b

/-- Whether a diagnostic is an error or more serious. -/
def hasErrors (b : Bag) : Bool := b.items.any fun d => Severity.error.level ≤ d.severity.level

/-- All diagnostics of both bags; the limit grows where they need it. -/
def merge (a b : Bag) : Bag :=
  ⟨a.items ++ b.items, max a.limit (a.size + b.size)⟩

/-- The diagnostics in the order of reports; those that compare equal keep their order. -/
def sort (b : Bag) : Bag := { b with items := b.items.mergeSort Diagnostic.le }

/-- The diagnostics that do not repeat an earlier one; `kept` holds the earlier ones. -/
def firstsAfter (kept : List Diagnostic) : List Diagnostic → List Diagnostic
  | [] => []
  | d :: rest =>
    if kept.any d.repeats then firstsAfter kept rest else d :: firstsAfter (d :: kept) rest

/-- Drops every diagnostic that repeats an earlier one. -/
def dedup (b : Bag) : Bag := { b with items := firstsAfter [] b.items }

end Bag

end AdtCompiler
