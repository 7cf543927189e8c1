/-!
# Tables of code point ranges

Properties of characters are given as written tables: a table is a text of entries separated
by blanks, and each entry is a code point or a range of code points in hexadecimal. A range
table answers whether a code point is listed; a mapping table also gives the values that are
written behind the entry.

## Entries

- `41` is the one code point 0x41, and `41-5A` is the range from 0x41 to 0x5A.
- `41-5A=61` gives the value 0x61 to the whole range.
- `C0=41,300` gives a list of values.

The entries of a table are written in increasing order and do not overlap, so that a lookup
may halve the table at every step.
-/

namespace AdtCompiler.Text

/-- One entry of a table: a range of code points and the values written for it. -/
structure RangeEntry where
  first : Nat
  last : Nat
  values : List Nat
deriving Repr, DecidableEq, Inhabited

/-- A table of code point ranges in increasing order. -/
structure RangeTable where
  entries : Array RangeEntry
deriving Repr, Inhabited

namespace RangeTable

/-! ## Reading a written table -/

/-- The state of the reader between two characters of a written table. -/
structure Reader where
  /-- The entries read so far, in order. -/
  entries : Array RangeEntry := #[]
  /-- The number being read, if one of its digits was seen. -/
  number : Option Nat := none
  /-- The first code point of the range being read. -/
  first : Option Nat := none
  /-- The last code point of the range, known once the values begin. -/
  last : Option Nat := none
  /-- The values of the entry, latest first. -/
  values : List Nat := []

/-- The value of a hexadecimal digit in upper case. -/
def hexDigit? (c : Char) : Option Nat :=
  if '0' ≤ c ∧ c ≤ '9' then some (c.toNat - '0'.toNat)
  else if 'A' ≤ c ∧ c ≤ 'F' then some (c.toNat - 'A'.toNat + 10)
  else none

/-- Ends the entry being read. -/
def Reader.finish (r : Reader) : Reader :=
  match r.number with
  | none => r
  | some n =>
    match r.first, r.last with
    | some a, some b => { entries := r.entries.push ⟨a, b, (n :: r.values).reverse⟩ }
    | some a, none => { entries := r.entries.push ⟨a, n, []⟩ }
    | none, _ => { entries := r.entries.push ⟨n, n, []⟩ }

/-- Reads one character of a written table. -/
def Reader.step (r : Reader) (c : Char) : Reader :=
  match hexDigit? c with
  | some d => { r with number := some (r.number.getD 0 * 16 + d) }
  | none =>
    if c = '-' then { r with first := r.number, number := none }
    else if c = '=' then
      { r with first := some (r.first.getD (r.number.getD 0)), last := r.number, number := none }
    else if c = ',' then { r with values := r.number.getD 0 :: r.values, number := none }
    else r.finish

/-- The table that a text of entries describes. -/
def ofString (s : String) : RangeTable :=
  ⟨(s.foldl Reader.step {}).finish.entries⟩

/-! ## Lookup -/

/-- Searches the entries from `lo` up to and without `hi` for the one that holds `c`. -/
def findBetween (t : RangeTable) (c : Nat) (lo hi : Nat) : Option RangeEntry :=
  if _h : lo < hi then
    let mid := (lo + hi) / 2
    match t.entries[mid]? with
    | none => none
    | some e =>
      if c < e.first then findBetween t c lo mid
      else if e.last < c then findBetween t c (mid + 1) hi
      else some e
  else none
termination_by hi - lo
decreasing_by all_goals omega

/-- The entry that holds the code point `c`. -/
def find? (t : RangeTable) (c : Nat) : Option RangeEntry :=
  findBetween t c 0 t.entries.size

/-- Whether the code point `c` is listed. -/
def contains (t : RangeTable) (c : Nat) : Bool :=
  (t.find? c).isSome

end RangeTable

end AdtCompiler.Text
