import AdtCompiler.Text.Basic
import Mathlib.Data.List.Perm.Basic

/-!
# Sorting by a comparison

What is listed or reported is sorted by a comparison first. Where the comparison is lawful, the
result is in order, and it does not depend on the order before, as long as nothing that compares
equal differs. Texts are compared byte by byte, which is lawful.

## Contents

- `pairwise_mergeSort_compare`, `eq_mergeSort_compare`, `mergeSort_compare_congr`
- `Text.compare_eq_lt_iff`: what comes first among texts is less as a list of bytes
- `Text.sorted_ext`: sorted texts are told by which texts they are
-/

namespace AdtCompiler

/-! ## Lawful comparisons -/

section

variable {α : Type} {cmp : α → α → Ordering} [Std.TransCmp cmp]

/-- Sorting puts nothing behind what it comes after. -/
theorem pairwise_mergeSort_compare (items : List α) :
    (items.mergeSort fun a b => cmp a b != .gt).Pairwise fun a b => (cmp a b != .gt) = true := by
  have hisLE (a b : α) : (cmp a b != .gt) = (cmp a b).isLE := by cases cmp a b <;> rfl
  apply List.pairwise_mergeSort
  · intro a b c hab hbc
    rw [hisLE] at hab hbc ⊢
    exact Std.TransCmp.isLE_trans hab hbc
  · intro a b
    rw [@Std.OrientedCmp.eq_swap _ cmp _ b a]
    cases cmp a b <;> rfl

/-- Whatever puts the same items in order gives what sorting gives, where ties are between equals
only. -/
theorem eq_mergeSort_compare {items sorted : List α} (h : sorted.Perm items)
    (hsorted : sorted.Pairwise fun a b => (cmp a b != .gt) = true)
    (hties : ∀ a ∈ items, ∀ b ∈ items, cmp a b = .eq → a = b) :
    sorted = items.mergeSort fun a b => cmp a b != .gt := by
  have hperm := List.mergeSort_perm items fun a b => cmp a b != .gt
  refine (h.trans hperm.symm).eq_of_pairwise ?_ hsorted (pairwise_mergeSort_compare items)
  intro a b ha hb hab hba
  refine hties a (h.mem_iff.mp ha) b (hperm.mem_iff.mp hb) ?_
  -- neither comes after the other
  rw [@Std.OrientedCmp.eq_swap _ cmp _ b a] at hba
  cases hcmp : cmp a b <;> simp_all

/-- The order before sorting does not matter where ties are between equals only. -/
theorem mergeSort_compare_congr {items items' : List α} (h : items.Perm items')
    (hties : ∀ a ∈ items, ∀ b ∈ items, cmp a b = .eq → a = b) :
    (items.mergeSort fun a b => cmp a b != .gt) = items'.mergeSort fun a b => cmp a b != .gt := by
  apply eq_mergeSort_compare ((List.mergeSort_perm items _).trans h)
  · exact pairwise_mergeSort_compare items
  · intro a ha b hb
    exact hties a (h.mem_iff.mpr ha) b (h.mem_iff.mpr hb)

end

/-! ## Texts -/

namespace Text

variable {s t : Text}

/-- Texts are compared as lists of bytes are. -/
theorem compare_eq (s t : Text) : compare s t = Ord.compare s t := by
  fun_induction compare s t with
  | case1 | case2 | case3 => rfl
  | case4 a s b t hlt => simp [Std.compare_eq_lt.mpr hlt]
  | case5 a s b t _ hgt => simp [Std.compare_eq_gt.mpr hgt]
  | case6 a s b t hlt hgt ih =>
    have hab : a = b := UInt8.le_antisymm (UInt8.not_lt.mp hgt) (UInt8.not_lt.mp hlt)
    simp [hab, ih]

theorem compare_eq_compare : compare = (Ord.compare : Text → Text → Ordering) :=
  funext fun s => funext fun t => compare_eq s t

instance : Std.TransCmp compare := compare_eq_compare ▸ inferInstance

instance : Std.LawfulEqCmp compare := compare_eq_compare ▸ inferInstance

theorem compare_eq_lt_iff : compare s t = .lt ↔ s < t := by
  fun_induction compare s t with
  | case1 | case2 | case3 => simp
  | case4 a s b t hlt => simp [List.cons_lt_cons_iff, hlt]
  | case5 a s b t hlt hgt =>
    have hne : a ≠ b := fun hab => UInt8.lt_irrefl b (hab ▸ hgt)
    simp [List.cons_lt_cons_iff, hlt, hne]
  | case6 a s b t hlt hgt ih =>
    have hab : a = b := UInt8.le_antisymm (UInt8.not_lt.mp hgt) (UInt8.not_lt.mp hlt)
    simp [hab, ih]

/-- Texts that are sorted and without repetition are told by which texts they are. -/
theorem sorted_ext {names names' : List Text} (h : names.Nodup) (h' : names'.Nodup)
    (hmem : ∀ name, name ∈ names ↔ name ∈ names') :
    names.mergeSort Text.le = names'.mergeSort Text.le :=
  mergeSort_compare_congr ((List.perm_ext_iff_of_nodup h h').mpr hmem)
    fun _ _ _ _ heq => Std.LawfulEqCmp.eq_of_compare heq

end Text

end AdtCompiler
