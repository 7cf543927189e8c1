import AdtCompiler.Check.Names
import Mathlib.Data.List.Count
import Mathlib.Data.List.Flatten
import Mathlib.Data.List.Nodup

/-!
# Documents without clashes

The set of findings of a document holds exactly the findings of its rules, so a document passes
the check when no rule finds anything. The rules that every back end shares find nothing exactly
in documents whose names are told apart.

## Contents

- `FindingSet.mem_ofList`: a set built from a list has the members of the list
- `Check.mem_repeats`: the repetitions are the names that occur twice
- `Doc.NamesApart` and `Doc.coreFindings_eq_nil_iff`
-/

namespace AdtCompiler

/-! ## Sets of findings -/

namespace FindingSet

theorem mem_insert {s : FindingSet} {f g : Finding} :
    f ∈ (s.insert g).items ↔ f ∈ s.items ∨ f = g := by
  unfold insert
  split
  case isTrue present =>
    refine ⟨.inl, fun h => h.elim id fun heq => heq ▸ present⟩
  case isFalse => simp

theorem mem_insertMany {s : FindingSet} {fs : List Finding} {f : Finding} :
    f ∈ (s.insertMany fs).items ↔ f ∈ s.items ∨ f ∈ fs := by
  induction fs generalizing s with
  | nil => simp [insertMany]
  | cons g fs ih =>
    have hstep : s.insertMany (g :: fs) = (s.insert g).insertMany fs := rfl
    rw [hstep, ih, mem_insert, List.mem_cons, or_assoc]

/-- A set built from a list has the members of the list. -/
theorem mem_ofList {fs : List Finding} {f : Finding} : f ∈ (ofList fs).items ↔ f ∈ fs := by
  simp [ofList, mem_insertMany, empty]

theorem isEmpty_ofList {fs : List Finding} : (ofList fs).isEmpty = true ↔ fs = [] := by
  rw [isEmpty, List.isEmpty_iff, List.eq_nil_iff_forall_not_mem, List.eq_nil_iff_forall_not_mem]
  simp only [mem_ofList]

end FindingSet

/-! ## Repetitions -/

namespace Check

/-- A name is repeated if it occurs once behind a list that has it, or twice. -/
theorem mem_repeatsAfter {seen names : List Text} {name : Text} :
    name ∈ repeatsAfter seen names ↔ (if name ∈ seen then 1 else 2) ≤ names.count name := by
  fun_induction repeatsAfter seen names with
  | case1 seen => by_cases h : name ∈ seen <;> simp [h]
  | case2 seen first rest hseen ih =>
    have hmem : first ∈ seen := List.contains_iff_mem.mp hseen
    by_cases heq : name = first
    · subst heq
      simp [hmem]
    · rw [List.mem_cons, ih, List.count_cons_of_ne (Ne.symm heq)]
      simp [heq]
  | case3 seen first rest hseen ih =>
    have hmem : first ∉ seen := fun h => hseen (List.contains_iff_mem.mpr h)
    rw [ih]
    by_cases heq : name = first
    · subst heq
      simp [hmem]
    · rw [List.count_cons_of_ne (Ne.symm heq)]
      simp [heq]

/-- The repetitions are the names that occur twice. -/
theorem mem_repeats {names : List Text} {name : Text} :
    name ∈ repeats names ↔ 2 ≤ names.count name := by
  simp [repeats, mem_repeatsAfter]

theorem repeats_eq_nil_iff {names : List Text} : repeats names = [] ↔ names.Nodup := by
  rw [List.eq_nil_iff_forall_not_mem, List.nodup_iff_count_le_one]
  refine forall_congr' fun name => ?_
  rw [mem_repeats]
  omega

end Check

/-! ## Names apart -/

/-- The names of a document are told apart: those of types in the whole document, those of type
parameters and of fields where they are declared, and no type parameter hides the types it is
used in. -/
structure Doc.NamesApart (doc : Doc) : Prop where
  declared : doc.declaredNames.Nodup
  params : ∀ d ∈ doc.types, d.params.Nodup
  notOwn : ∀ d ∈ doc.types, d.name ∉ d.params
  notConstructor : ∀ d ∈ doc.types, ∀ c ∈ d.constructors, c.name ∉ d.params
  fields : ∀ d ∈ doc.types, ∀ c ∈ d.constructors, c.fieldNames.Nodup

/-- Data types with names apart have different names. -/
theorem Doc.NamesApart.types_nodup {doc : Doc} (h : doc.NamesApart) :
    (doc.types.map (·.name)).Nodup := by
  refine h.declared.sublist ?_
  rw [List.map_eq_flatMap]
  exact List.Sublist.flatMap_right doc.types fun d _ => by simp [DataType.declaredNames]

theorem DataType.isHiddenBy_iff {d : DataType} {param : Text} :
    d.isHiddenBy param = true ↔ param = d.name ∨ ∃ c ∈ d.constructors, param = c.name := by
  simp [isHiddenBy]

theorem DataType.paramFindings_eq_nil_iff {d : DataType} :
    d.paramFindings = [] ↔
      d.params.Nodup ∧ d.name ∉ d.params ∧ ∀ c ∈ d.constructors, c.name ∉ d.params := by
  rw [paramFindings, List.append_eq_nil_iff, List.map_eq_nil_iff, List.map_eq_nil_iff,
    Check.repeats_eq_nil_iff, List.filter_eq_nil_iff]
  simp only [isHiddenBy_iff]
  refine and_congr_right fun _ => ⟨fun h => ⟨fun hmem => ?_, fun c hc hmem => ?_⟩, ?_⟩
  · exact h _ hmem (.inl rfl)
  · exact h _ hmem (.inr ⟨c, hc, rfl⟩)
  · rintro ⟨hown, hconstructor⟩ param hparam (rfl | ⟨c, hc, rfl⟩)
    · exact hown hparam
    · exact hconstructor c hc hparam

theorem Constructor.fieldFindings_eq_nil_iff {c : Constructor} :
    c.fieldFindings = [] ↔ c.fieldNames.Nodup := by
  rw [fieldFindings, List.map_eq_nil_iff, Check.repeats_eq_nil_iff]

namespace Doc

/-- The shared rules find nothing exactly if the names are told apart. -/
theorem coreFindings_eq_nil_iff {doc : Doc} : doc.coreFindings = [] ↔ doc.NamesApart := by
  rw [coreFindings, List.append_eq_nil_iff, List.map_eq_nil_iff, Check.repeats_eq_nil_iff,
    List.flatMap_eq_nil_iff]
  simp only [List.append_eq_nil_iff, List.flatMap_eq_nil_iff, DataType.paramFindings_eq_nil_iff,
    Constructor.fieldFindings_eq_nil_iff]
  constructor
  · rintro ⟨hdeclared, htypes⟩
    exact ⟨hdeclared, fun d hd => (htypes d hd).1.1, fun d hd => (htypes d hd).1.2.1,
      fun d hd => (htypes d hd).1.2.2, fun d hd => (htypes d hd).2⟩
  · rintro ⟨hdeclared, hparams, hown, hconstructor, hfields⟩
    exact ⟨hdeclared, fun d hd => ⟨⟨hparams d hd, hown d hd, hconstructor d hd⟩, hfields d hd⟩⟩

/-- A document passes the check exactly if its names are told apart and no rule finds anything. -/
theorem check_isEmpty_iff {doc : Doc} {rules : List CheckRule} :
    (doc.check rules).isEmpty = true ↔ doc.NamesApart ∧ ∀ rule ∈ rules, rule doc = [] := by
  rw [check, FindingSet.isEmpty_ofList, List.append_eq_nil_iff, coreFindings_eq_nil_iff,
    List.flatMap_eq_nil_iff]

/-- What the check finds is what the shared rules find and what the rules of a back end find. -/
theorem contains_check {doc : Doc} {rules : List CheckRule} {f : Finding} :
    (doc.check rules).contains f = true ↔ f ∈ doc.coreFindings ∨ ∃ rule ∈ rules, f ∈ rule doc := by
  rw [FindingSet.contains, List.contains_iff_mem, check, FindingSet.mem_ofList, List.mem_append,
    List.mem_flatMap]

end Doc

end AdtCompiler
