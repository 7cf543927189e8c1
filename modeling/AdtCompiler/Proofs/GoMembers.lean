import AdtCompiler.Backend.Basic
import AdtCompiler.Proofs.Clash
import AdtCompiler.Proofs.Uppercase

/-!
# Members of a generated struct

The fields of a struct share its names with its methods. A field has the declared name with its
first letter in upper case, so different names may become one: fields that differ only in the case
of the first letter, and letters that have one upper-case partner. The rule of the back end finds
the fields that become one and those that become the printing method. The marker method begins with
a small letter, as no field does.

## Contents

- `head?_exported`: the first byte of a field is no small letter
- `fieldClashesAfter_eq_nil_iff`: the fields in which the rule finds nothing
- `struct_members_apart`
-/

namespace AdtCompiler

/-! ## First bytes -/

namespace Text

/-- Whether a byte is a small ASCII letter. -/
def isSmallLetter (b : UInt8) : Bool := 0x61 ≤ b && b ≤ 0x7A

theorem isSmallLetter_eq_false {b : UInt8} (h : ¬ (0x61 ≤ b.toNat ∧ b.toNat ≤ 0x7A)) :
    isSmallLetter b = false := by
  simpa [isSmallLetter, UInt8.le_iff_toNat_le, ← not_and_or] using h

theorem scalarOf2?_lt {a b : UInt8} {n : Nat} (h : scalarOf2? a b = some n) : n < 0x110000 := by
  unfold scalarOf2? at h
  split at h
  case isTrue =>
    have hn := Option.some.inj h
    have := a.toNat_lt
    have := b.toNat_lt
    omega
  case isFalse => cases h

theorem scalarOf3?_lt {a b c : UInt8} {n : Nat} (h : scalarOf3? a b c = some n) :
    n < 0x110000 := by
  unfold scalarOf3? at h
  split at h
  case isTrue =>
    simp only at h
    split at h
    · cases h
    · have hn := Option.some.inj h
      have := a.toNat_lt
      have := b.toNat_lt
      have := c.toNat_lt
      omega
  case isFalse => cases h

theorem scalarOf4?_lt {a b c d : UInt8} {n : Nat} (h : scalarOf4? a b c d = some n) :
    n < 0x110000 := by
  unfold scalarOf4? at h
  split at h
  case isTrue =>
    simp only at h
    split at h
    · cases h
    · have hn := Option.some.inj h
      omega
  case isFalse => cases h

/-- What is decoded at the head of a text is a code point, and beyond ASCII if the first byte is. -/
theorem scalarAt?_spec {a : UInt8} {t : Text} {n size : Nat}
    (h : scalarAt? (a :: t) = some (n, size)) : n < 0x110000 ∧ (a < 0x80 → n = a.toNat) := by
  simp only [scalarAt?] at h
  split at h
  case isTrue =>
    cases h
    have := a.toNat_lt
    exact ⟨by omega, fun _ => rfl⟩
  case isFalse hbeyond =>
    refine ⟨?_, fun hascii => absurd hascii hbeyond⟩
    split at h
    case h_4 => cases h
    all_goals simp only [Option.or_eq_some_iff, Option.map_eq_some_iff, Prod.mk.injEq] at h
    · rcases h with ⟨m, hm, rfl, -⟩ | ⟨-, ⟨m, hm, rfl, -⟩ | ⟨-, m, hm, rfl, -⟩⟩
      · exact scalarOf2?_lt hm
      · exact scalarOf3?_lt hm
      · exact scalarOf4?_lt hm
    · rcases h with ⟨m, hm, rfl, -⟩ | ⟨-, m, hm, rfl, -⟩
      · exact scalarOf2?_lt hm
      · exact scalarOf3?_lt hm
    · obtain ⟨m, hm, rfl, -⟩ := h
      exact scalarOf2?_lt hm

/-- The bytes of a code point begin with a small letter only if it is one. -/
theorem head?_ofCode {n : Nat} (hn : n < 0x110000) (hsmall : ¬ (0x61 ≤ n ∧ n ≤ 0x7A)) (t : Text) :
    ∀ b ∈ (ofCode n ++ t).head?, isSmallLetter b = false := by
  have hbyte (m : Nat) (hm : m < 256) : m.toUInt8.toNat = m := UInt8.toNat_ofNat_of_lt' hm
  intro b hb
  apply isSmallLetter_eq_false
  unfold ofCode at hb
  -- beyond ASCII the first byte announces the number of bytes, and is not ASCII itself
  split at hb
  · cases hb
    rwa [hbyte n (by omega)]
  split at hb
  · cases hb
    rw [hbyte (0xC0 + n / 64) (by omega)]
    omega
  split at hb
  · cases hb
    rw [hbyte (0xE0 + n / 4096) (by omega)]
    omega
  · cases hb
    rw [hbyte (0xF0 + n / 262144) (by omega)]
    omega

end Text

namespace Go

open Text (isSmallLetter)

/-- No field begins with a small letter: the first letter is put into upper case, and a first byte
that is not decoded is not ASCII. -/
theorem head?_exported (name : Text) : ∀ b ∈ (exported name).head?, isSmallLetter b = false := by
  cases name with
  | nil => simp [exported, Text.runes, Text.runesFrom]
  | cons a t =>
    -- a name that stays as it is begins with a byte beyond ASCII
    have hstays (hbeyond : ¬ a < 0x80) : ∀ b ∈ (a :: t).head?, isSmallLetter b = false := by
      intro b hb
      cases hb
      apply Text.isSmallLetter_eq_false
      have hbyte : (0x80 : UInt8).toNat = 0x80 := rfl
      rw [UInt8.lt_iff_toNat_lt, hbyte] at hbeyond
      omega
    cases hscalar : Text.scalarAt? (a :: t) with
    | none =>
      have hsame : exported (a :: t) = a :: t := by
        simp [exported, Text.runes, Text.runesFrom, hscalar]
      rw [hsame]
      exact hstays fun hascii => by simp [Text.scalarAt?, hascii] at hscalar
    | some found =>
      obtain ⟨c, size⟩ := found
      obtain ⟨hcode, hascii⟩ := Text.scalarAt?_spec hscalar
      have hexported : exported (a :: t) = if c = 0xFFFD then a :: t
          else Text.ofCode (Text.toUpper c) ++ (a :: t).drop (Text.ofCode c).length := by
        simp [exported, Text.runes, Text.runesFrom, hscalar]
      rw [hexported]
      split
      case isTrue hreplacement =>
        refine hstays fun hlt => ?_
        have hbyte := a.toNat_lt
        have hsame := hascii hlt
        omega
      case isFalse =>
        obtain ⟨hupper, hsmall⟩ := Text.toUpper_spec hcode
        exact Text.head?_ofCode hupper hsmall _

/-! ## Fields -/

/-- Where declared names are told apart, the rule finds nothing iff no field is the printing method
and the fields are told apart from each other and from those before. -/
theorem fieldClashesAfter_eq_nil_iff {scope : Text} {seen : List (Text × Text)} {names : List Text}
    (hnames : names.Nodup) (hseen : ∀ entry ∈ seen, entry.2 ∉ names) :
    fieldClashesAfter scope seen names = [] ↔
      (∀ name ∈ names, exported name ≠ "String") ∧ (names.map exported).Nodup ∧
        ∀ name ∈ names, exported name ∉ seen.map (·.1) := by
  induction names generalizing seen with
  | nil => simp [fieldClashesAfter]
  | cons name names ih =>
    obtain ⟨hname, hnames⟩ := List.nodup_cons.mp hnames
    have hseen' : ∀ entry ∈ (exported name, name) :: seen, entry.2 ∉ names := by
      intro entry hentry
      rcases List.mem_cons.mp hentry with rfl | hentry
      · exact hname
      · exact fun hmem => hseen entry hentry (List.mem_cons_of_mem _ hmem)
    have hstring : (if exported name = ("String" : Text) then
        [clash scope name "the generated String method"] else []) = [] ↔
        exported name ≠ "String" := by
      split <;> simp [*]
    cases hlookup : seen.lookup (exported name) with
    | none =>
      have hfree : exported name ∉ seen.map (·.1) := by
        intro hmem
        obtain ⟨entry, hentry, heq⟩ := List.mem_map.mp hmem
        simpa [heq] using List.lookup_eq_none_iff.mp hlookup entry hentry
      have hnew : (∀ other ∈ names, exported other ∉ exported name :: seen.map (·.1)) ↔
          exported name ∉ names.map exported ∧
            ∀ other ∈ names, exported other ∉ seen.map (·.1) := by
        simp only [List.mem_cons, not_or, List.mem_map, not_exists, not_and]
        exact ⟨fun h => ⟨fun other ho => (h other ho).1, fun other ho => (h other ho).2⟩,
          fun h other ho => ⟨h.1 other ho, h.2 other ho⟩⟩
      simp only [fieldClashesAfter, hlookup, List.append_nil, List.append_eq_nil_iff, hstring,
        ih hnames hseen', List.map_cons, hnew, List.forall_mem_cons, List.nodup_cons]
      constructor
      · rintro ⟨hown, hall, hnodup, hlater, hbefore⟩
        exact ⟨⟨hown, hall⟩, ⟨hlater, hnodup⟩, hfree, hbefore⟩
      · rintro ⟨⟨hown, hall⟩, ⟨hlater, hnodup⟩, -, hbefore⟩
        exact ⟨hown, hall, hnodup, hlater, hbefore⟩
    | some earlier =>
      -- an earlier field of the same name was declared under another one
      obtain ⟨front, back, hsplit, -⟩ := List.lookup_eq_some_iff.mp hlookup
      have hmem : (exported name, earlier) ∈ seen := by simp [hsplit]
      have hother : earlier ≠ name := fun heq => hseen _ hmem (by simp [heq])
      refine iff_of_false ?_ fun h => ?_
      · simp [fieldClashesAfter, hlookup, hother]
      · exact h.2.2 name List.mem_cons_self (List.mem_map_of_mem hmem)

/-- Where declared names are told apart, the rule finds nothing iff the fields are told apart and
none of them is the printing method. -/
theorem fieldClashes_eq_nil_iff {c : Constructor} (h : c.fieldNames.Nodup) :
    fieldClashes c = [] ↔
      (∀ a ∈ c.args, exported a.name ≠ "String") ∧ (c.args.map (exported ·.name)).Nodup := by
  rw [fieldClashes, fieldClashesAfter_eq_nil_iff h (by simp)]
  simp [Constructor.fieldNames, Function.comp_def]

/-- The marker method begins with a small letter. -/
theorem exported_ne_markerName (name dataType : Text) : exported name ≠ markerName dataType := by
  intro heq
  have hhead := head?_exported name
  rw [heq] at hhead
  have hsmall : isSmallLetter (Text.byte 'i') = false := hhead _ rfl
  exact absurd hsmall (by decide)

/-- **The members of a generated struct are told apart.** In a document that passes the check with
the rules of Go, the struct of a constructor has no two fields of one name. None of them is the
printing method, nor the method that marks the constructors of a data type with several. -/
theorem struct_members_apart {doc : Doc} {package : Text}
    (passes : (doc.check (Backend.go package).rules).isEmpty = true) {d : DataType}
    (hd : d ∈ doc.types) {c : Constructor} (hc : c ∈ d.constructors) :
    ((fieldsOf (recordNames doc) c).map (·.1)).Nodup ∧
      ("String" : Text) ∉ (fieldsOf (recordNames doc) c).map (·.1) ∧
      (1 < d.constructors.length →
        markerName d.name ∉ (fieldsOf (recordNames doc) c).map (·.1)) := by
  obtain ⟨hapart, hrules⟩ := Doc.check_isEmpty_iff.mp passes
  have hrule : nameRule doc = [] := hrules nameRule List.mem_cons_self
  simp only [nameRule, typeClashes, constructorClashes, List.flatMap_eq_nil_iff,
    List.append_eq_nil_iff] at hrule
  have hclashes : fieldClashes c = [] := ((hrule d hd).2 c hc).2
  obtain ⟨hstring, hnodup⟩ := (fieldClashes_eq_nil_iff (hapart.fields d hd c hc)).mp hclashes
  have hnames : (fieldsOf (recordNames doc) c).map (·.1) = c.args.map (exported ·.name) := by
    simp [fieldsOf]
  rw [hnames]
  refine ⟨hnodup, fun hmem => ?_, fun _ hmem => ?_⟩
  · obtain ⟨a, ha, heq⟩ := List.mem_map.mp hmem
    exact hstring a ha heq
  · obtain ⟨a, -, heq⟩ := List.mem_map.mp hmem
    exact exported_ne_markerName a.name d.name heq

namespace NearMembers

/-- A constructor with fields that are close to methods and to each other. -/
def near : Constructor :=
  ⟨"Near", [⟨.prim .int, "isAll"⟩, ⟨.prim .int, "strings"⟩, ⟨.prim .int, "yeah"⟩,
    ⟨.prim .int, "yeaH"⟩]⟩

def all : DataType := ⟨"All", [], [near, ⟨"Far", []⟩]⟩

def doc : Doc := ⟨"near.adt", [], [], [all]⟩

theorem passes_doc : (doc.check (Backend.go "").rules).isEmpty = true := by decide

end NearMembers

/-- Fields may come close to methods and to each other. -/
theorem struct_members_apart_near :
    (fieldsOf (recordNames NearMembers.doc) NearMembers.near).map (·.1) =
        ["IsAll", "Strings", "Yeah", "YeaH"] ∧
      markerName NearMembers.all.name = "isAll" ∧
      ((fieldsOf (recordNames NearMembers.doc) NearMembers.near).map (·.1)).Nodup ∧
      ("String" : Text) ∉ (fieldsOf (recordNames NearMembers.doc) NearMembers.near).map (·.1) ∧
      markerName NearMembers.all.name ∉
        (fieldsOf (recordNames NearMembers.doc) NearMembers.near).map (·.1) := by
  obtain ⟨hnodup, hstring, hmarker⟩ := struct_members_apart NearMembers.passes_doc
    (d := NearMembers.all) List.mem_cons_self (c := NearMembers.near) List.mem_cons_self
  exact ⟨by decide, by decide, hnodup, hstring, hmarker (by decide)⟩

end Go

end AdtCompiler
