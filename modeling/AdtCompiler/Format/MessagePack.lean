import AdtCompiler.Text.Basic

/-!
# Binary messages

A compact binary form of numbers, texts, lists and mappings. Every value starts with a byte that
gives its kind and, for short values, its size. Readers take a value off the front of a text and
give what follows it.
-/

namespace AdtCompiler.Format.Pack

/-! ## Writing -/

/-- A number in a fixed count of bytes, the highest first. -/
def bigEndian : (width : Nat) → (n : Nat) → Text
  | 0, _ => []
  | w + 1, n => bigEndian w (n / 256) ++ [n.toUInt8]

/-- A number of 16 bits. -/
def number16 (n : UInt16) : Text := 0xCD :: bigEndian 2 n.toNat

/-- A text behind its length. -/
def string (t : Text) : Text :=
  let n := t.length
  (if n < 32 then [(0xA0 + n).toUInt8]
    else if n < 256 then 0xD9 :: bigEndian 1 n
    else if n < 65536 then 0xDA :: bigEndian 2 n
    else 0xDB :: bigEndian 4 n) ++ t

/-- Bytes behind their number. -/
def binary (t : Text) : Text :=
  let n := t.length
  (if n < 256 then 0xC4 :: bigEndian 1 n
    else if n < 65536 then 0xC5 :: bigEndian 2 n
    else 0xC6 :: bigEndian 4 n) ++ t

/-- Nothing. -/
def nothing : Text := [0xC0]

/-- Packed items behind their number. -/
def list (items : List Text) : Text :=
  let n := items.length
  (if n < 16 then [(0x90 + n).toUInt8]
    else if n < 65536 then 0xDC :: bigEndian 2 n
    else 0xDD :: bigEndian 4 n) ++ items.flatten

/-- Packed members of a mapping, of which there are fewer than sixteen. -/
def smallMap (members : List (Text × Text)) : Text :=
  (0x80 + members.length).toUInt8 :: members.flatMap fun (name, value) => string name ++ value

/-! ## Reading -/

/-- The number in bytes, the highest first. -/
def ofBigEndian (t : Text) : Nat := t.foldl (fun n b => n * 256 + b.toNat) 0

/-- A number of bytes off the front. -/
def take? (n : Nat) (t : Text) : Option (Text × Text) :=
  if n ≤ t.length then some (t.take n, t.drop n) else none

/-- A number in a fixed count of bytes. -/
def fixed? (width : Nat) (t : Text) : Option (Nat × Text) :=
  (take? width t).map fun (bytes, rest) => (ofBigEndian bytes, rest)

/-- A number of 64 bits; negative ones wrap around, and nothing counts as zero. -/
def number? : Text → Option (Nat × Text)
  | [] => none
  | code :: rest =>
    let signed (width : Nat) : Option (Nat × Text) :=
      (fixed? width rest).map fun (n, rest) =>
        (if n < Nat.pow 2 (8 * width - 1) then n
          else Nat.pow 2 64 + n - Nat.pow 2 (8 * width), rest)
    if code < 0x80 then some (code.toNat, rest)
    else if 0xE0 ≤ code then some (Nat.pow 2 64 + code.toNat - 256, rest)
    else
      match code with
      | 0xC0 => some (0, rest)
      | 0xCC => fixed? 1 rest
      | 0xCD => fixed? 2 rest
      | 0xCE => fixed? 4 rest
      | 0xCF => fixed? 8 rest
      | 0xD0 => signed 1
      | 0xD1 => signed 2
      | 0xD2 => signed 4
      | 0xD3 => signed 8
      | _ => none

/-- The length of a text or of bytes; nothing has none. -/
def bytesLength? : Text → Option (Option Nat × Text)
  | [] => none
  | code :: rest =>
    let sized (width : Nat) : Option (Option Nat × Text) :=
      (fixed? width rest).map fun (n, rest) => (some n, rest)
    if 0xA0 ≤ code ∧ code < 0xC0 then some (some (code.toNat - 0xA0), rest)
    else
      match code with
      | 0xC0 => some (none, rest)
      | 0xD9 | 0xC4 => sized 1
      | 0xDA | 0xC5 => sized 2
      | 0xDB | 0xC6 => sized 4
      | _ => none

/-- A text; nothing counts as the empty one. -/
def string? (t : Text) : Option (Text × Text) := do
  let (length, rest) ← bytesLength? t
  take? (length.getD 0) rest

/-- The number of items of a list; nothing has none. -/
def listLength? : Text → Option (Option Nat × Text)
  | [] => none
  | code :: rest =>
    if 0x90 ≤ code ∧ code < 0xA0 then some (some (code.toNat - 0x90), rest)
    else
      match code with
      | 0xC0 => some (none, rest)
      | 0xDC => (fixed? 2 rest).map fun (n, rest) => (some n, rest)
      | 0xDD => (fixed? 4 rest).map fun (n, rest) => (some n, rest)
      | _ => none

/-- The number of members of a mapping; nothing has none. -/
def mapLength? : Text → Option (Option Nat × Text)
  | [] => none
  | code :: rest =>
    if 0x80 ≤ code ∧ code < 0x90 then some (some (code.toNat - 0x80), rest)
    else
      match code with
      | 0xC0 => some (none, rest)
      | 0xDE => (fixed? 2 rest).map fun (n, rest) => (some n, rest)
      | 0xDF => (fixed? 4 rest).map fun (n, rest) => (some n, rest)
      | _ => none

/-- A number of items one after another. Every item takes a byte at least, so the length of the
text is fuel enough. -/
def many? (item : Text → Option (α × Text)) : (count fuel : Nat) → Text → Option (List α × Text)
  | 0, _, t => some ([], t)
  | _ + 1, 0, _ => none
  | count + 1, fuel + 1, t => do
    let (first, rest) ← item t
    let (more, rest) ← many? item count fuel rest
    return (first :: more, rest)

/-- A list of items; nothing is told apart from the empty list. -/
def list? (item : Text → Option (α × Text)) (t : Text) : Option (Option (List α) × Text) := do
  let (length, rest) ← listLength? t
  match length with
  | none => return (none, rest)
  | some n =>
    let (items, rest) ← many? item n rest.length rest
    return (some items, rest)

/-- Skips the bytes behind a length of the given width, and a few more. -/
def skipSized (width more : Nat) (t : Text) : Option Text := do
  let (n, rest) ← fixed? width t
  let (_, rest) ← take? (n + more) rest
  return rest

/-- The number of values inside the value at the front, and what follows its head. -/
def skipHead : Text → Option (Nat × Text)
  | [] => none
  | code :: rest =>
    let plain (n : Nat) : Option (Nat × Text) := (take? n rest).map fun (_, rest) => (0, rest)
    let items (width scale : Nat) : Option (Nat × Text) :=
      (fixed? width rest).map fun (n, rest) => (scale * n, rest)
    let sized (width more : Nat) : Option (Nat × Text) :=
      (skipSized width more rest).map fun rest => (0, rest)
    if code < 0x80 ∨ 0xE0 ≤ code then some (0, rest)
    else if code < 0x90 then some (2 * (code.toNat - 0x80), rest)
    else if code < 0xA0 then some (code.toNat - 0x90, rest)
    else if code < 0xC0 then plain (code.toNat - 0xA0)
    else
      match code with
      | 0xC0 | 0xC2 | 0xC3 => some (0, rest)
      | 0xCC | 0xD0 => plain 1
      | 0xCD | 0xD1 => plain 2
      | 0xCE | 0xD2 | 0xCA => plain 4
      | 0xCF | 0xD3 | 0xCB => plain 8
      | 0xC4 | 0xD9 => sized 1 0
      | 0xC5 | 0xDA => sized 2 0
      | 0xC6 | 0xDB => sized 4 0
      | 0xDC => items 2 1
      | 0xDD => items 4 1
      | 0xDE => items 2 2
      | 0xDF => items 4 2
      | 0xD4 => plain 2
      | 0xD5 => plain 3
      | 0xD6 => plain 5
      | 0xD7 => plain 9
      | 0xD8 => plain 17
      | 0xC7 => sized 1 1
      | 0xC8 => sized 2 1
      | 0xC9 => sized 4 1
      | _ => none

/-- Skips a number of values. Every value takes a byte at least, so the length of the text is
fuel enough. -/
def skip : (count fuel : Nat) → Text → Option Text
  | 0, _, t => some t
  | _ + 1, 0, _ => none
  | count + 1, fuel + 1, t => do
    let (inside, rest) ← skipHead t
    skip (count + inside) fuel rest

/-- Skips one value. -/
def skipValue (t : Text) : Option Text := skip 1 t.length t

end AdtCompiler.Format.Pack
