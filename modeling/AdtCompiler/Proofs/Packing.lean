import AdtCompiler.Cache.Entry
import Mathlib.Algebra.Group.Nat.Defs
import Mathlib.Tactic.SplitIfs

/-!
# Entries are read back

What stands at the front of a binary message can be read off it, whatever follows. An entry of the
cache is such a message, and it is read back as it was, as long as its texts and lists are not
longer than four bytes can tell and its digests are as long as digests are.

## Contents

- `Pack.string?_string`, `Pack.list?_list`: texts and lists are read back
- `CacheEntry.unpack?_pack`: entries are read back
-/

namespace AdtCompiler

namespace Format.Pack

/-! ## Numbers -/

theorem length_bigEndian (w n : Nat) : (bigEndian w n).length = w := by
  induction w generalizing n with
  | zero => rfl
  | succ w ih => simp [bigEndian, ih]

theorem ofBigEndian_bigEndian {w n : Nat} (h : n < 256 ^ w) : ofBigEndian (bigEndian w n) = n := by
  induction w generalizing n with
  | zero => simp_all [bigEndian, ofBigEndian]
  | succ w ih =>
    have hhigh : n / 256 < 256 ^ w := Nat.div_lt_of_lt_mul (Nat.pow_succ' ▸ h)
    have hfold := ih hhigh
    simp only [ofBigEndian] at hfold
    simp only [bigEndian, ofBigEndian, List.foldl_append, List.foldl_cons, List.foldl_nil, hfold,
      Nat.toUInt8_eq, UInt8.toNat_ofNat']
    exact Nat.div_add_mod' n 256

theorem take?_append (t rest : Text) : take? t.length (t ++ rest) = some (t, rest) := by
  simp [take?]

theorem fixed?_bigEndian {w n : Nat} (h : n < 256 ^ w) (rest : Text) :
    fixed? w (bigEndian w n ++ rest) = some (n, rest) := by
  have htake := take?_append (bigEndian w n) rest
  rw [length_bigEndian] at htake
  simp [fixed?, htake, ofBigEndian_bigEndian h]

theorem number?_number16 (n : UInt16) (rest : Text) :
    number? (number16 n ++ rest) = some (n.toNat, rest) := by
  simp [number16, number?, fixed?_bigEndian (w := 2) n.toNat_lt]

/-- A small size is in the byte that gives the kind of a value. -/
theorem toNat_kind {base limit n : Nat} (hlimit : base + limit ≤ 256) (h : n < limit) :
    ((base + n).toUInt8).toNat = base + n := by
  rw [Nat.toUInt8_eq, UInt8.toNat_ofNat', Nat.mod_eq_of_lt (by omega)]

/-! ## Texts -/

theorem bytesLength?_string {t : Text} (h : t.length < 2 ^ 32) (rest : Text) :
    bytesLength? (string t ++ rest) = some (some t.length, t ++ rest) := by
  unfold string
  dsimp only
  split_ifs with hshort hbyte hword
  · have hkind : ((0xA0 + t.length).toUInt8).toNat = 0xA0 + t.length :=
      toNat_kind (by decide) hshort
    have hrange : 0xA0 ≤ (0xA0 + t.length).toUInt8 ∧ (0xA0 + t.length).toUInt8 < 0xC0 := by
      simp only [UInt8.le_iff_toNat_le, UInt8.lt_iff_toNat_lt, hkind]
      exact ⟨Nat.le_add_right _ _, Nat.add_lt_add_left hshort 0xA0⟩
    change bytesLength? ((0xA0 + t.length).toUInt8 :: (t ++ rest)) = _
    unfold bytesLength?
    dsimp only
    rw [if_pos hrange, hkind, Nat.add_sub_cancel_left]
  · simp [bytesLength?, fixed?_bigEndian (w := 1) hbyte]
  · simp [bytesLength?, fixed?_bigEndian (w := 2) hword]
  · simp [bytesLength?, fixed?_bigEndian (w := 4) h]

theorem string?_string {t : Text} (h : t.length < 2 ^ 32) (rest : Text) :
    string? (string t ++ rest) = some (t, rest) := by
  simp [string?, bytesLength?_string h, take?_append]

theorem bytesLength?_binary {t : Text} (h : t.length < 2 ^ 32) (rest : Text) :
    bytesLength? (binary t ++ rest) = some (some t.length, t ++ rest) := by
  unfold binary
  dsimp only
  split_ifs with hbyte hword
  · simp [bytesLength?, fixed?_bigEndian (w := 1) hbyte]
  · simp [bytesLength?, fixed?_bigEndian (w := 2) hword]
  · simp [bytesLength?, fixed?_bigEndian (w := 4) h]

theorem string_ne_nil (t : Text) : string t ≠ [] := by
  unfold string
  dsimp only
  split_ifs <;> simp

theorem binary_ne_nil (t : Text) : binary t ≠ [] := by
  unfold binary
  dsimp only
  split_ifs <;> simp

/-! ## Lists -/

variable {α : Type} {item : Text → Option (α × Text)} {pack : α → Text} {items : List α}

theorem listLength?_list (h : items.length < 2 ^ 32) (pack : α → Text) (rest : Text) :
    listLength? (list (items.map pack) ++ rest) =
      some (some items.length, (items.map pack).flatten ++ rest) := by
  unfold list
  dsimp only
  rw [List.length_map]
  split_ifs with hshort hword
  · have hkind : ((0x90 + items.length).toUInt8).toNat = 0x90 + items.length :=
      toNat_kind (by decide) hshort
    have hrange : 0x90 ≤ (0x90 + items.length).toUInt8 ∧
        (0x90 + items.length).toUInt8 < 0xA0 := by
      simp only [UInt8.le_iff_toNat_le, UInt8.lt_iff_toNat_lt, hkind]
      exact ⟨Nat.le_add_right _ _, Nat.add_lt_add_left hshort 0x90⟩
    change listLength? ((0x90 + items.length).toUInt8 :: ((items.map pack).flatten ++ rest)) = _
    unfold listLength?
    dsimp only
    rw [if_pos hrange, hkind, Nat.add_sub_cancel_left]
  · simp [listLength?, fixed?_bigEndian (w := 2) hword]
  · simp [listLength?, fixed?_bigEndian (w := 4) h]

/-- Every item takes a byte at least. -/
theorem length_le_length_flatten (h : ∀ a ∈ items, pack a ≠ []) (rest : Text) :
    items.length ≤ ((items.map pack).flatten ++ rest).length := by
  induction items with
  | nil => simp
  | cons a items ih =>
    simp only [List.forall_mem_cons] at h
    have ha := List.length_pos_iff.mpr h.1
    have := ih h.2
    simp only [List.map_cons, List.flatten_cons, List.length_append, List.length_cons] at *
    omega

theorem many?_flatten (h : ∀ a ∈ items, ∀ rest, item (pack a ++ rest) = some (a, rest))
    {fuel : Nat} (hfuel : items.length ≤ fuel) (rest : Text) :
    many? item items.length fuel ((items.map pack).flatten ++ rest) = some (items, rest) := by
  induction items generalizing fuel with
  | nil => cases fuel <;> rfl
  | cons a items ih =>
    simp only [List.forall_mem_cons] at h
    cases fuel with
    | zero => simp at hfuel
    | succ fuel => simp [many?, h.1, ih h.2 (Nat.le_of_succ_le_succ hfuel)]

theorem list?_list (hlength : items.length < 2 ^ 32) (hpack : ∀ a ∈ items, pack a ≠ [])
    (h : ∀ a ∈ items, ∀ rest, item (pack a ++ rest) = some (a, rest)) (rest : Text) :
    list? item (list (items.map pack) ++ rest) = some (some items, rest) := by
  have hmany := many?_flatten h (length_le_length_flatten hpack rest) rest
  simp only [list?, listLength?_list hlength, Option.bind_eq_bind, Option.bind_some, hmany]
  rfl

end Format.Pack

open Format

namespace CacheEntry

/-! ## Entries -/

theorem digestOver?_binary {earlier digest : Text} (he : earlier.length = digestSize)
    (hd : digest.length = digestSize) (rest : Text) :
    digestOver? earlier (Pack.binary digest ++ rest) = some (digest, rest) := by
  have hlength := Pack.bytesLength?_binary (t := digest) (by rw [hd]; decide) rest
  have hdrop : earlier.drop digest.length = [] :=
    List.drop_eq_nil_of_le (Nat.le_of_eq (he.trans hd.symm))
  simp [digestOver?, hlength, Pack.take?_append, hdrop, Nat.le_of_eq hd]

/-- Digests are read back where there were none before. -/
theorem digestsOver?_binary {digests : List Text} (h : ∀ d ∈ digests, d.length = digestSize)
    {fuel : Nat} (hfuel : digests.length ≤ fuel) (rest : Text) :
    digestsOver? digests.length fuel [] ((digests.map Pack.binary).flatten ++ rest) =
      some (digests, [], rest) := by
  induction digests generalizing fuel with
  | nil => cases fuel <;> rfl
  | cons d digests ih =>
    simp only [List.forall_mem_cons] at h
    cases fuel with
    | zero => simp at hfuel
    | succ fuel =>
      have hblank : blankDigest.length = digestSize := by simp [blankDigest]
      simp [digestsOver?, digestOver?_binary hblank h.1, ih h.2 (Nat.le_of_succ_le_succ hfuel)]

/-- An entry whose parts have sizes that can be told. -/
structure Packable (e : CacheEntry) : Prop where
  texts : ∀ t ∈ [e.source, e.backend, e.version] ++ e.outputList, t.length < 2 ^ 32
  outputs : e.outputList.length < 2 ^ 32
  digests : e.digestList.length < 2 ^ 32
  digest : ∀ d ∈ e.digestList, d.length = digestSize

/-- A member is read into its part. -/
theorem readMembers_member {d d' : Draft} {name value rest : Text} {part : Part}
    (hname : name.length < 2 ^ 32) (hpart : part? name = some part)
    (h : readPart d part (value ++ rest) = some (d', rest)) (count fuel : Nat) :
    readMembers d (count + 1) (fuel + 1) (Pack.string name ++ value ++ rest) =
      readMembers d' count fuel rest := by
  rw [readMembers, List.append_assoc, Pack.string?_string hname]
  simp [hpart, h]

/-- Recorded files are read back where there were none before. -/
theorem readPart_outputs {d : Draft} (hd : d.entry.outputs = none) {outputs : Option (List Text)}
    (hlength : (outputs.getD []).length < 2 ^ 32)
    (htexts : ∀ t ∈ outputs.getD [], t.length < 2 ^ 32) (rest : Text) :
    readPart d .outputs (packed outputs Pack.string ++ rest) =
      some (⟨{ d.entry with outputs }, d.slots⟩, rest) := by
  cases outputs with
  | none => simp [readPart, packed, Pack.nothing, Pack.list?, Pack.listLength?, hd]
  | some items =>
    have hlist : Pack.list? Pack.string? (Pack.list (items.map Pack.string) ++ rest) =
        some (some items, rest) :=
      Pack.list?_list hlength (fun t _ => Pack.string_ne_nil t)
        (fun t ht rest => Pack.string?_string (htexts t ht) rest) rest
    simp [readPart, packed, hlist]

/-- Digests are read back where there were none before. -/
theorem readPart_digests {d : Draft} (hd : d.slots = []) {digests : Option (List Text)}
    (hlength : (digests.getD []).length < 2 ^ 32)
    (hsize : ∀ t ∈ digests.getD [], t.length = digestSize) (rest : Text) :
    ∃ slots, readPart d .digests (packed digests Pack.binary ++ rest) =
      some (⟨{ d.entry with digests }, slots⟩, rest) := by
  cases digests with
  | none => exact ⟨[], by simp [readPart, packed, Pack.nothing, Pack.listLength?]⟩
  | some items =>
    have hlist := Pack.listLength?_list hlength Pack.binary rest
    have hread := digestsOver?_binary hsize
      (Pack.length_le_length_flatten (fun t _ => Pack.binary_ne_nil t) rest) rest
    rw [Option.getD_some] at hlist hread
    refine ⟨items, ?_⟩
    simp only [readPart, packed, hlist, hd, hread, Option.bind_eq_bind, Option.bind_some,
      List.append_nil]
    rfl

/-- Entries are read back. -/
theorem unpack?_pack {e : CacheEntry} (h : e.Packable) : unpack? e.pack = some e := by
  have htexts := h.texts
  simp only [List.forall_mem_append, List.forall_mem_cons] at htexts
  obtain ⟨⟨hsource, hbackend, hversion, -⟩, houtputs⟩ := htexts
  obtain ⟨rest, hpack, hrest⟩ : ∃ rest, e.pack = 0x86 :: rest ∧
      rest = Pack.string "Schema" ++ Pack.number16 e.schema ++ (Pack.string "Source" ++
        Pack.string e.source ++ (Pack.string "Backend" ++ Pack.string e.backend ++
        (Pack.string "Version" ++ Pack.string e.version ++ (Pack.string "Outputs" ++
        packed e.outputs Pack.string ++ (Pack.string "OutputHashes" ++
        packed e.digests Pack.binary ++ []))))) := by
    exact ⟨_, rfl, by simp⟩
  -- The first name alone makes the fuel last for six members.
  obtain ⟨fuel, hfuel⟩ : ∃ fuel, rest.length = fuel + 6 := by
    have hname : (Pack.string "Schema").length = 7 := by decide
    refine ⟨rest.length - 6, ?_⟩
    rw [hrest]
    simp only [List.length_append, hname]
    omega
  have hlength : Pack.mapLength? e.pack = some (some 6, rest) := by rw [hpack]; rfl
  -- Each part goes into the draft that the parts before it have left.
  have hschema (more : Text) : readPart {} .schema (Pack.number16 e.schema ++ more) =
      some (⟨{ schema := e.schema }, []⟩, more) := by
    simp [readPart, Pack.number?_number16]
  have hsource (more : Text) : readPart ⟨{ schema := e.schema }, []⟩ .source
      (Pack.string e.source ++ more) =
        some (⟨{ schema := e.schema, source := e.source }, []⟩, more) := by
    simp [readPart, Pack.string?_string hsource]
  have hbackend (more : Text) : readPart ⟨{ schema := e.schema, source := e.source }, []⟩ .backend
      (Pack.string e.backend ++ more) =
        some (⟨{ schema := e.schema, source := e.source, backend := e.backend }, []⟩, more) := by
    simp [readPart, Pack.string?_string hbackend]
  have hversion (more : Text) :
      readPart ⟨{ schema := e.schema, source := e.source, backend := e.backend }, []⟩ .version
        (Pack.string e.version ++ more) =
          some (⟨{ e with outputs := none, digests := none }, []⟩, more) := by
    simp [readPart, Pack.string?_string hversion]
  obtain ⟨slots, hdigests⟩ :=
    readPart_digests (d := ⟨{ e with digests := none }, []⟩) rfl h.digests h.digest []
  rw [unpack?, hlength]
  dsimp only
  rw [hfuel, hrest, readMembers_member (by decide) rfl (hschema _),
    readMembers_member (by decide) rfl (hsource _), readMembers_member (by decide) rfl (hbackend _),
    readMembers_member (by decide) rfl (hversion _),
    readMembers_member (by decide) rfl (readPart_outputs rfl h.outputs houtputs _),
    readMembers_member (by decide) rfl hdigests]
  rfl

end CacheEntry

end AdtCompiler
