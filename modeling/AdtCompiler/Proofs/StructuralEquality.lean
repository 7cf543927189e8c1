import AdtCompiler.Syntax.Doc
import Mathlib.Data.List.Nodup

/-!
# Structural equality is exact

Types are compared node by node, and documents part by part. The comparison of types holds of a
type and itself and of nothing else, where a missing type and a code that names no primitive are
nodes like any others. So documents compare equal iff they agree in everything but their source.

## Contents

- `Primitive.ofCode_injective`: a primitive is told by its code, also beyond the list
- `Ty.equal_iff`, `Ty.allEqual_iff`: types compare equal iff they are the same
- `isEqv_iff_eq`, `equalIfAny_iff_rel`: comparing lists place by place, and what may be missing
- `Doc.Agrees`, `Doc.equal_iff`: documents compare equal iff they agree
- `Doc.structural_equality_exact`
-/

namespace AdtCompiler

/-! ## Types -/

namespace Primitive

variable {n : UInt8}

theorem ofCode_of_beyond (h : 7 < n) : ofCode n = unlisted n h := dif_pos h

theorem ofCode_of_listed (h : ¬7 < n) :
    ∃ i : Fin listed.length, i.val = n.toNat ∧ ofCode n = listed.get i := by
  have hlt : n.toNat < listed.length := Nat.lt_succ_of_le (UInt8.not_lt.mp h)
  exact ⟨⟨n.toNat, hlt⟩, rfl, by simp [ofCode, h, hlt]⟩

theorem get_listed_ne_unlisted (i : Fin listed.length) (h : 7 < n) :
    listed.get i ≠ unlisted n h := by
  intro heq
  have hmem : unlisted n h ∈ listed := heq ▸ List.get_mem listed i
  simp [listed] at hmem

/-- Different codes stand for different primitives. -/
theorem ofCode_injective : Function.Injective ofCode := by
  intro m n h
  by_cases hm : 7 < m <;> by_cases hn : 7 < n
  · rw [ofCode_of_beyond hm, ofCode_of_beyond hn] at h
    exact unlisted.inj h
  · obtain ⟨i, -, heq⟩ := ofCode_of_listed hn
    rw [ofCode_of_beyond hm, heq] at h
    exact absurd h.symm (get_listed_ne_unlisted i hm)
  · obtain ⟨i, -, heq⟩ := ofCode_of_listed hm
    rw [ofCode_of_beyond hn, heq] at h
    exact absurd h (get_listed_ne_unlisted i hn)
  · -- both are read off at their places in the list, which has no primitive twice
    obtain ⟨i, hi, heqm⟩ := ofCode_of_listed hm
    obtain ⟨j, hj, heqn⟩ := ofCode_of_listed hn
    rw [heqm, heqn] at h
    have hnodup : listed.Nodup := by decide
    have hij : i = j := hnodup.get_inj_iff.mp h
    rw [← UInt8.toNat_inj, ← hi, ← hj, hij]

end Primitive

mutual

-- The recursion is on the first type. The second is only split: another constructor is another
-- tree, on whichever side it stands.
theorem Ty.equal_iff : ∀ a b : Ty, a.equal b = true ↔ a = b
  | .prim p, b => by cases b <;> simp [Ty.equal]
  | .cls name args, b => by cases b <;> simp [Ty.equal, Ty.allEqual_iff args]
  | .array elem, b => by cases b <;> simp [Ty.equal, Ty.equal_iff elem]
  | .absent, b => by cases b <;> simp [Ty.equal]

theorem Ty.allEqual_iff : ∀ as bs : List Ty, Ty.allEqual as bs = true ↔ as = bs
  | [], bs => by cases bs <;> simp [Ty.allEqual]
  | a :: as, bs => by cases bs <;> simp [Ty.allEqual, Ty.equal_iff a, Ty.allEqual_iff as]

end

/-! ## Documents -/

/-- Lists compare equal place by place iff they are the same, if their members do. -/
theorem isEqv_iff_eq {α : Type} {equal : α → α → Bool}
    (h : ∀ a b, equal a b = true ↔ a = b) (as bs : List α) :
    as.isEqv bs equal = true ↔ as = bs := by
  induction as generalizing bs with
  | nil => cases bs <;> simp [List.isEqv]
  | cons a as ih => cases bs <;> simp [List.isEqv, h, ih]

/-- Two that may be missing compare equal iff both are missing, or both are given and related. -/
theorem equalIfAny_iff_rel {α : Type} {equal : α → α → Bool} {related : α → α → Prop}
    (h : ∀ a b, equal a b = true ↔ related a b) (a b : Option α) :
    equalIfAny equal a b = true ↔ Option.Rel related a b := by
  cases a <;> cases b <;> simp [equalIfAny, h]

theorem equalIfAny_iff_eq {α : Type} {equal : α → α → Bool}
    (h : ∀ a b, equal a b = true ↔ a = b) (a b : Option α) :
    equalIfAny equal a b = true ↔ a = b := by
  cases a <;> cases b <;> simp [equalIfAny, h]

theorem Arg.equal_iff (a b : Arg) : a.equal b = true ↔ a = b := by
  cases a
  cases b
  simp [equal, Ty.equal_iff, and_comm]

theorem Constructor.equal_iff (a b : Constructor) : a.equal b = true ↔ a = b := by
  cases a
  cases b
  simp [equal, isEqv_iff_eq Arg.equal_iff]

theorem DataType.equal_iff (a b : DataType) : a.equal b = true ↔ a = b := by
  cases a
  cases b
  simp [equal, isEqv_iff_eq Constructor.equal_iff, and_assoc]

namespace Doc

/-- Whether two documents agree in everything but where they came from. -/
structure Agrees (a b : Doc) : Prop where
  package : a.package = b.package
  imports : a.imports = b.imports
  types : a.types = b.types

theorem equal_iff (a b : Doc) : a.equal b = true ↔ a.Agrees b := by
  simp only [equal, Bool.and_eq_true, beq_iff_eq, isEqv_iff_eq DataType.equal_iff,
    and_assoc]
  exact ⟨fun ⟨hpackage, himports, htypes⟩ => ⟨hpackage, himports, htypes⟩,
    fun h => ⟨h.package, h.imports, h.types⟩⟩

/-- Documents agree iff one becomes the other when its source is put in. -/
theorem agrees_iff (a b : Doc) : a.Agrees b ↔ { a with source := b.source } = b := by
  constructor
  · intro h
    cases a
    cases b
    cases h
    simp_all only
  · intro h
    rw [← h]
    exact ⟨rfl, rfl, rfl⟩

theorem equalIfAny_iff : ∀ a b : Option Doc, equalIfAny a b = true ↔ Option.Rel Agrees a b :=
  equalIfAny_iff_rel equal_iff

theorem agrees_equivalence : Equivalence Agrees where
  refl _ := ⟨rfl, rfl, rfl⟩
  symm h := ⟨h.package.symm, h.imports.symm, h.types.symm⟩
  trans h h' := ⟨h.package.trans h'.package, h.imports.trans h'.imports, h.types.trans h'.types⟩

theorem equalIfAny_equivalence : Equivalence fun a b : Option Doc => equalIfAny a b = true := by
  simp only [equalIfAny_iff]
  constructor
  · intro a
    cases a with
    | none => exact .none
    | some a => exact .some (agrees_equivalence.refl a)
  · intro a b h
    cases h with
    | none => exact .none
    | some h => exact .some (agrees_equivalence.symm h)
  · intro a b c h h'
    cases h with
    | none => exact h'
    | some h =>
      cases h' with
      | some h' => exact .some (agrees_equivalence.trans h h')

/-- **Structural equality is exact.** Types compare equal iff they are the same tree: a missing type
equals only a missing one, and primitives are equal iff their codes are, listed or not. So the
comparison of documents is an equivalence, a missing document equals only a missing one, and two
that are given are equal iff they have the same package, imports and data types, that is, iff they
are the same but for their source. Arguments, constructors and data types that may be missing
compare equal iff they are the same. -/
theorem structural_equality_exact :
    (∀ t u : Ty, t.equal u = true ↔ t = u) ∧
    (∀ m n, (Ty.prim (.ofCode m)).equal (.prim (.ofCode n)) = true ↔ m = n) ∧
    (Equivalence fun a b : Option Doc => equalIfAny a b = true) ∧
    (∀ a b : Option Doc, equalIfAny a b = true ↔ Option.Rel Agrees a b) ∧
    (∀ a b : Doc, equalIfAny (some a) (some b) = true ↔ { a with source := b.source } = b) ∧
    (∀ a b : Option Arg, Arg.equalIfAny a b = true ↔ a = b) ∧
    (∀ a b : Option Constructor, Constructor.equalIfAny a b = true ↔ a = b) ∧
    (∀ a b : Option DataType, DataType.equalIfAny a b = true ↔ a = b) := by
  refine ⟨Ty.equal_iff, fun m n => ?_, equalIfAny_equivalence, equalIfAny_iff, fun a b => ?_,
    equalIfAny_iff_eq Arg.equal_iff, equalIfAny_iff_eq Constructor.equal_iff,
    equalIfAny_iff_eq DataType.equal_iff⟩
  · rw [Ty.equal_iff, Ty.prim.injEq]
    exact Primitive.ofCode_injective.eq_iff
  · exact (equal_iff a b).trans (agrees_iff a b)

end Doc

end AdtCompiler
