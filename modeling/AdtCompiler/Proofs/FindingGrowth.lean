import AdtCompiler.Backend.Basic
import AdtCompiler.Proofs.Collisions
import Mathlib.Data.List.Perm.Subperm

/-!
# Findings stay when declarations are added

The check walks through the data types in order, remembers names on the way and asks tables about
the whole document. Nothing of this makes a finding depend on the order or on data types that have
no part in it: what is found among some data types is found among any that include them, wherever
the others stand. So a declaration that is added hides no collision.

## Contents

- `CheckRule.Monotone`: rules that find no less where data types are added
- `Doc.Collision.mono`, `Java.nameRule_monotone`, `Go.nameRule_monotone`
- `Doc.check_grows`
-/

namespace AdtCompiler

/-- A rule that finds no less where data types are added or put in another order. -/
def CheckRule.Monotone (rule : CheckRule) : Prop :=
  ∀ ⦃doc doc' : Doc⦄, doc.types.Subperm doc'.types → rule doc ⊆ rule doc'

/-- A rule that looks at the data types one by one is monotone. -/
theorem CheckRule.Monotone.of_each (findings : DataType → List Finding) :
    Monotone fun doc => doc.types.flatMap findings := by
  intro doc doc' h f hf
  obtain ⟨d, hd, hfound⟩ := List.mem_flatMap.mp hf
  exact List.mem_flatMap.mpr ⟨d, h.subset hd, hfound⟩

/-! ## Collisions -/

namespace Doc

variable {doc doc' : Doc} {f : Finding}

/-- The names that are taken are counted over the whole document, so they only become more. -/
theorem takenNames_subperm (h : doc.types.Subperm doc'.types) :
    doc.takenNames.Subperm doc'.takenNames := by
  obtain ⟨types, hperm, hsublist⟩ := h
  exact ⟨types.flatMap DataType.takenNames, hperm.flatMap_right _, hsublist.flatMap _⟩

theorem Collision.mono (hf : doc.Collision f) (h : doc.types.Subperm doc'.types) :
    doc'.Collision f := by
  cases hf with
  | name n twice => exact .name n (Nat.le_trans twice ((takenNames_subperm h).count_le n))
  | param hd p twice => exact .param (h.subset hd) p twice
  | shadow hd hp hides => exact .shadow (h.subset hd) hp hides
  | field hd hc n twice => exact .field (h.subset hd) hc n twice

theorem coreFindings_monotone : CheckRule.Monotone coreFindings := by
  intro doc doc' h f hf
  rw [mem_coreFindings] at hf ⊢
  exact hf.mono h

end Doc

/-! ## Rules of the back ends -/

theorem Java.nameRule_monotone : CheckRule.Monotone Java.nameRule := .of_each typeFindings

namespace Go

variable {types types' : List Text}

theorem typeNames_subset {doc doc' : Doc} (h : doc.types.Subperm doc'.types) :
    typeNames doc ⊆ typeNames doc' := by
  intro name hname
  obtain ⟨d, hd, hmem⟩ := List.mem_flatMap.mp hname
  exact List.mem_flatMap.mpr ⟨d, h.subset hd, hmem⟩

/-- A clash that is found because a name is listed is found in a longer list. -/
theorem listed_mono (h : types ⊆ types') (name : Text) (found : List Finding) :
    (if types.contains name then found else []) ⊆ if types'.contains name then found else [] := by
  by_cases hname : name ∈ types
  · simp [hname, h hname]
  · simp [hname]

theorem constructorClashes_mono (h : types ⊆ types') (d : DataType) (c : Constructor) :
    constructorClashes types d c ⊆ constructorClashes types' d c := by
  intro f hf
  simp only [constructorClashes, List.mem_append] at hf ⊢
  exact hf.imp_left (Or.imp_right fun hbuilder => listed_mono h _ _ hbuilder)

theorem typeClashes_mono (h : types ⊆ types') (d : DataType) :
    typeClashes types d ⊆ typeClashes types' d := by
  have hmatch : (if !d.isRecord && types.contains (matchName d.name) then
        [clash "" (matchName d.name) ("the function generated to match " ++ d.name)] else []) ⊆
      if !d.isRecord && types'.contains (matchName d.name) then
        [clash "" (matchName d.name) ("the function generated to match " ++ d.name)] else [] := by
    cases d.isRecord with
    | true => simp
    | false => simpa using listed_mono h (matchName d.name) _
  have hconstructors : d.constructors.flatMap (constructorClashes types d) ⊆
      d.constructors.flatMap (constructorClashes types' d) := by
    intro f hf
    obtain ⟨c, hc, hfound⟩ := List.mem_flatMap.mp hf
    exact List.mem_flatMap.mpr ⟨c, hc, constructorClashes_mono h d c hfound⟩
  intro f hf
  simp only [typeClashes, List.mem_append (s := _ ++ _)] at hf ⊢
  exact hf.imp (Or.imp_right fun hfound => hmatch hfound) fun hfound => hconstructors hfound

theorem nameRule_monotone : CheckRule.Monotone nameRule := by
  intro doc doc' h f hf
  obtain ⟨d, hd, hfound⟩ := List.mem_flatMap.mp hf
  exact List.mem_flatMap.mpr ⟨d, h.subset hd, typeClashes_mono (typeNames_subset h) d hfound⟩

end Go

/-! ## The whole check -/

namespace Doc

variable {rules : List CheckRule} {doc doc' : Doc} {f : Finding}

/-- With monotone rules the whole check is monotone. -/
theorem contains_check_mono (hrules : ∀ rule ∈ rules, rule.Monotone)
    (h : doc.types.Subperm doc'.types) (hf : (doc.check rules).contains f = true) :
    (doc'.check rules).contains f = true := by
  rw [contains_check] at hf ⊢
  rcases hf with hcore | ⟨rule, hrule, hfound⟩
  · exact .inl (coreFindings_monotone h hcore)
  · exact .inr ⟨rule, hrule, hrules rule hrule h hfound⟩

/-- The sets of rules that there are: none, and those of either back end. -/
def ruleSets : List (List CheckRule) := [[], Backend.java.rules, (Backend.go []).rules]

theorem monotone_of_mem_ruleSets (hrules : rules ∈ ruleSets) : ∀ rule ∈ rules, rule.Monotone := by
  simp only [ruleSets, Backend.java, Backend.go, List.mem_cons, List.not_mem_nil,
    or_false] at hrules
  rcases hrules with rfl | rfl | rfl
  · exact nofun
  · exact List.forall_mem_singleton.mpr Java.nameRule_monotone
  · exact List.forall_mem_singleton.mpr Go.nameRule_monotone

/-- **Findings are monotone.** What the check finds in a document it finds in every document that
has the same data types and others, each as often at least, in any order. So documents with the same
data types in different orders have the same findings, and one that passes the check has no part
that fails it. -/
theorem check_grows (hrules : rules ∈ ruleSets) :
    (∀ doc doc' : Doc, doc.types.Subperm doc'.types →
      ∀ f, (doc.check rules).contains f = true → (doc'.check rules).contains f = true) ∧
    (∀ doc doc' : Doc, doc.types.Perm doc'.types →
      ∀ f, (doc.check rules).contains f = (doc'.check rules).contains f) ∧
    ∀ doc doc' : Doc, doc.types.Subperm doc'.types →
      (doc'.check rules).isEmpty = true → (doc.check rules).isEmpty = true := by
  have hmono := monotone_of_mem_ruleSets hrules
  refine ⟨fun doc doc' h f => contains_check_mono hmono h, fun doc doc' h f => ?_,
    fun doc doc' h hpasses => ?_⟩
  · rw [Bool.eq_iff_iff]
    exact ⟨contains_check_mono hmono h.subperm, contains_check_mono hmono h.symm.subperm⟩
  · rw [FindingSet.isEmpty, List.isEmpty_iff, List.eq_nil_iff_forall_not_mem] at hpasses ⊢
    intro f hf
    have hfound := contains_check_mono hmono h (List.contains_iff_mem.mpr hf)
    exact hpasses f (List.contains_iff_mem.mp hfound)

/-- A data type and one that has the name of the function which builds the first. -/
def builderNamesake : Doc := ⟨"", "", [], [⟨"A", [], [⟨"A", []⟩]⟩, ⟨"NewA", [], [⟨"B", []⟩]⟩]⟩

/-- The same data types in the other order, around one that takes both names again. -/
def builderNamesakes : Doc :=
  ⟨"", "p", [], [⟨"NewA", [], [⟨"B", []⟩]⟩, ⟨"C", [], [⟨"NewA", []⟩, ⟨"A", []⟩]⟩,
    ⟨"A", [], [⟨"A", []⟩]⟩]⟩

/-- The clash with the function is found there too. -/
theorem check_grows_namesakes :
    builderNamesake.types.Subperm builderNamesakes.types ∧
      (builderNamesakes.check (Backend.go []).rules).contains
        ⟨.generatedClash, "", "NewA", "the function generated to build A"⟩ = true := by
  have hparts : builderNamesake.types.Subperm builderNamesakes.types :=
    ⟨[⟨"NewA", [], [⟨"B", []⟩]⟩, ⟨"A", [], [⟨"A", []⟩]⟩], .swap ..,
      .cons_cons _ (.cons _ (.refl _))⟩
  have hgo : (Backend.go []).rules ∈ ruleSets := .tail _ (.tail _ (.head _))
  exact ⟨hparts, (check_grows hgo).1 _ _ hparts _ (by decide)⟩

end Doc

end AdtCompiler
