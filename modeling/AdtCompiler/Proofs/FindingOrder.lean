import AdtCompiler.Proofs.SortedOrder
import AdtCompiler.Run.Locate

/-!
# Findings are reported in one order

A set of findings has no order of its own: what is enumerated first is a matter of chance, and a
sort is free to swap what it takes for equal. Neither can be seen in a report. The order of reports
looks at all four parts of a finding, so it tells any two findings apart, and there is one way only
to put a set in order.

## Contents

- `FindingKind.ofCode_code`: a kind is told by its code
- `Finding.Before`: the order of reports, part by part
- `Finding.compare_eq_lt_iff`, and the laws of the comparison as instances
- `FindingSet.sorted_canonical`: what is reported depends on the set alone
-/

namespace AdtCompiler

/-! ## The order of reports -/

/-- A kind is told by its code. -/
theorem FindingKind.ofCode_code (kind : FindingKind) : ofCode kind.code = kind := by
  cases kind with
  | unlisted code beyond => exact dif_pos beyond
  | _ => rfl

theorem FindingKind.code_injective : Function.Injective FindingKind.code :=
  Function.LeftInverse.injective FindingKind.ofCode_code

namespace Finding

variable {a b : Finding}

/-- Whether a finding is reported before another: by the code of its kind, and among equals by the
bytes of its scope, then of its name, then of its counterpart. -/
def Before (a b : Finding) : Prop :=
  a.kind.code < b.kind.code ∨ a.kind.code = b.kind.code ∧
    (a.scope < b.scope ∨ a.scope = b.scope ∧
      (a.name < b.name ∨ a.name = b.name ∧ a.counterpart < b.counterpart))

theorem compare_eq_lt_iff : a.compare b = .lt ↔ a.Before b := by
  simp only [compare, Before, Ordering.then_eq_lt, Std.compare_eq_lt,
    Std.LawfulEqCmp.compare_eq_iff_eq, Text.compare_eq_lt_iff]

instance : Std.TransCmp compare := by
  -- comparing part after part is a lexicographic comparison, and inherits the laws of its parts
  have hcompare : compare = compareLex (compareOn (·.kind.code)) (compareLex
      (compareOn (·.scope)) (compareLex (compareOn (·.name)) (compareOn (·.counterpart)))) := by
    funext a b
    simp only [compare, Text.compare_eq]
    rfl
  rw [hcompare]
  infer_instance

/-- Findings that tie are the same: no part of a finding is left out of the comparison. -/
instance : Std.LawfulEqCmp compare where
  eq_of_compare {a b} h := by
    simp only [compare, Ordering.then_eq_eq, Std.LawfulEqCmp.compare_eq_iff_eq] at h
    obtain ⟨hkind, hscope, hname, hcounterpart⟩ := h
    have hkind : a.kind = b.kind := FindingKind.code_injective hkind
    cases a
    cases b
    simp_all only

/-- Of two different findings that are in order, the first comes before the second. -/
theorem before_of_le (h : a.le b = true) (hne : a ≠ b) : a.Before b := by
  rw [← compare_eq_lt_iff]
  cases hcompare : a.compare b with
  | lt => rfl
  | eq => exact absurd (Std.LawfulEqCmp.eq_of_compare hcompare) hne
  | gt => simp [le, hcompare] at h

end Finding

/-! ## Sets in order -/

namespace FindingSet

variable (s : FindingSet)

theorem sorted_perm : s.sorted.Perm s.items := List.mergeSort_perm s.items Finding.le

theorem sorted_nodup : s.sorted.Nodup := s.sorted_perm.nodup_iff.mpr s.nodup

theorem pairwise_sorted : s.sorted.Pairwise Finding.Before := by
  have hordered : s.sorted.Pairwise fun f g => f.le g = true := pairwise_mergeSort_compare s.items
  -- no finding is there twice, so what is in order is strictly in order
  exact hordered.imp₂ (fun _ _ => Finding.before_of_le) s.sorted_nodup

/-- There is one way only to put the findings of a set in order. -/
theorem eq_sorted_of_pairwise {out : List Finding} (h : out.Perm s.items)
    (hout : out.Pairwise fun f g => f.le g = true) : out = s.sorted :=
  eq_mergeSort_compare h hout fun _ _ _ _ heq => Std.LawfulEqCmp.eq_of_compare heq

/-- Sets with the same members are enumerations of one another. -/
theorem items_perm_of_contains {s s' : FindingSet} (h : ∀ f, s'.contains f = s.contains f) :
    s'.items.Perm s.items := by
  apply (List.perm_ext_iff_of_nodup s'.nodup s.nodup).mpr
  intro f
  have hf := h f
  rwa [Bool.eq_iff_iff, contains, contains, List.contains_iff_mem, List.contains_iff_mem] at hf

/-- Sets with the same members are put in the same order. -/
theorem sorted_congr {s s' : FindingSet} (h : ∀ f, s'.contains f = s.contains f) :
    s'.sorted = s.sorted := by
  apply s.eq_sorted_of_pairwise (s'.sorted_perm.trans (items_perm_of_contains h))
  exact pairwise_mergeSort_compare s'.items

/-- **Reports of findings are canonical.** A set is reported strictly in the order of reports, each
of its findings once and nothing else. Any enumeration of the set that is put in order by any means,
a sort that swaps ties included, is the same list. So sets with the same members give the same
list, the same message and the same diagnostics in the same order. -/
theorem sorted_canonical (s : FindingSet) :
    s.sorted.Pairwise Finding.Before ∧
    (∀ f, s.sorted.count f = if s.contains f then 1 else 0) ∧
    (∀ keys out : List Finding, keys.Perm s.items → out.Perm keys →
      (out.Pairwise fun f g => f.compare g ≠ .gt) → out = s.sorted) ∧
    (∀ s' : FindingSet, (∀ f, s'.contains f = s.contains f) →
      s'.sorted = s.sorted ∧
      (∀ source, s'.message source = s.message source) ∧
      ∀ file table, s'.diagnostics file table = s.diagnostics file table) := by
  refine ⟨s.pairwise_sorted, fun f => ?_, fun keys out hkeys hperm hout => ?_, fun s' h => ?_⟩
  · rw [s.sorted_perm.count_eq, s.nodup.count]
    simp [contains]
  · apply s.eq_sorted_of_pairwise (hperm.trans hkeys)
    exact hout.imp fun h => by simpa [Finding.le] using h
  · have hsorted := sorted_congr h
    refine ⟨hsorted, fun source => ?_, fun file table => ?_⟩
    · rw [message, message, hsorted]
    · rw [diagnostics, diagnostics, hsorted]

/-- Findings that differ in one part each, enumerated in the order of reports. -/
def near : FindingSet where
  items :=
    [⟨.duplicateField, "Pair", "left", ""⟩, ⟨.generatedClash, "Pair", "Left", "builder"⟩,
      ⟨.generatedClash, "Pair", "Left", "matcher"⟩, ⟨.generatedClash, "Pair", "left", "builder"⟩,
      ⟨.generatedClash, "Tree", "Left", "builder"⟩]
  nodup := by decide

/-- The same findings, enumerated backwards. -/
def nearBackwards : FindingSet where
  items := near.items.reverse
  nodup := near.items.reverse_perm.nodup_iff.mpr near.nodup

/-- The order in which they are enumerated cannot be seen in a report. -/
theorem sorted_canonical_near :
    nearBackwards.sorted = near.items ∧
      nearBackwards.message "pair.adt" = near.message "pair.adt" := by
  obtain ⟨-, -, hsort, -⟩ := sorted_canonical nearBackwards
  obtain ⟨-, -, -, hsame⟩ := sorted_canonical near
  constructor
  · have hperm : near.items.Perm nearBackwards.items := near.items.reverse_perm.symm
    exact (hsort near.items near.items hperm .rfl (by decide)).symm
  · apply (hsame nearBackwards _).2.1
    intro f
    simp [contains, nearBackwards]

end FindingSet

end AdtCompiler
