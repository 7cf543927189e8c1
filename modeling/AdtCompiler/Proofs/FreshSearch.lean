import AdtCompiler.Backend.JavaType
import AdtCompiler.Proofs.FreshName
import Mathlib.Computability.StateTransition

/-!
# The search for a fresh name ends at the first free one

As it is meant, the search has no bound: it tries the wanted name and then the wanted name with one
number after the other, until one is free. What runs has a bound instead, the number of taken names.
Here the search without a bound is written as a transition system, and it is shown to halt, within
that many rounds, at the name that is chosen.

## Contents

- `FreshName.Attempt.next?`: a round of the search without a bound
- `FreshName.eval_next?`: it halts at the chosen name
- `FreshName.IsFirstFree`: what a fresh name is
- `FreshName.reserve_first_free`: fresh names are the first free ones, and are not given out twice
-/

namespace AdtCompiler.FreshName

open StateTransition (eval Reaches)

variable {base : Text} {taken : List Text}

/-! ## The search without a bound -/

/-- Where the search stands: the name at hand, and the number for the next one. -/
structure Attempt where
  name : Text
  number : Nat

/-- A round of the search. A name that is taken gives way to the wanted name with the next number;
at a free name the search ends. -/
def Attempt.next? (base : Text) (taken : List Text) (a : Attempt) : Option Attempt :=
  if taken.contains a.name then some ⟨base ++ Text.decimal a.number, a.number + 1⟩ else none

/-- A round leads from a candidate that is taken to the next candidate. -/
theorem next?_of_mem {k : Nat} (h : candidate base k ∈ taken) :
    Attempt.next? base taken ⟨candidate base k, k + 1⟩ = some ⟨candidate base (k + 1), k + 2⟩ :=
  if_pos (List.contains_iff_mem.mpr h)

/-- At a candidate that is free the search ends. -/
theorem next?_of_not_mem {k : Nat} (h : candidate base k ∉ taken) :
    Attempt.next? base taken ⟨candidate base k, k + 1⟩ = none :=
  if_neg (mt List.contains_iff_mem.mp h)

/-- The search comes to every candidate that has no free one before it. -/
theorem reaches_candidate {k : Nat} (h : ∀ j < k, candidate base j ∈ taken) :
    Reaches (Attempt.next? base taken) ⟨base, 1⟩ ⟨candidate base k, k + 1⟩ := by
  induction k with
  | zero => exact .refl
  | succ k ih =>
    have hsofar := ih fun j hj => h j (Nat.lt_succ_of_lt hj)
    apply hsofar.tail
    exact next?_of_mem (h k (Nat.lt_succ_self k))

/-- The search without a bound halts at the chosen name, in at most one round for each name that is
taken. -/
theorem eval_next? (base : Text) (taken : List Text) : ∃ rounds ≤ taken.length,
    eval (Attempt.next? base taken) ⟨base, 1⟩ = .some ⟨choose base taken, rounds + 1⟩ := by
  obtain ⟨k, heq, hfree, hbefore⟩ := exists_choose base taken
  refine ⟨k, ?_, ?_⟩
  · -- some candidate up to that number is free, and those before the chosen one are not
    obtain ⟨free, hle, hnot⟩ := exists_free (candidate_injective base) taken 0
    by_contra hlt
    exact hnot (hbefore _ (by omega))
  · rw [heq, Part.eq_some_iff, StateTransition.mem_eval]
    exact ⟨reaches_candidate hbefore, next?_of_not_mem hfree⟩

/-! ## First free names -/

/-- Whether a name is the first free one for a wanted name: the wanted name itself, or if that is
taken, the wanted name with the least positive number that makes it free. -/
structure IsFirstFree (base : Text) (taken : List Text) (name : Text) : Prop where
  free : name ∉ taken
  plain : base ∉ taken → name = base
  numbered : base ∈ taken → ∃ i, 0 < i ∧ name = base ++ Text.decimal i ∧
    ∀ j, 0 < j → j < i → base ++ Text.decimal j ∈ taken

theorem isFirstFree_choose (base : Text) (taken : List Text) :
    IsFirstFree base taken (choose base taken) := by
  obtain ⟨k, heq, hfree, hbefore⟩ := exists_choose base taken
  rw [heq]
  cases k with
  | zero => exact ⟨hfree, fun _ => rfl, fun hbase => absurd hbase hfree⟩
  | succ k =>
    -- a number is in use, so the wanted name itself is taken
    have hbase : base ∈ taken := hbefore 0 (Nat.succ_pos k)
    refine ⟨hfree, fun hnot => absurd hbase hnot, fun _ => ⟨k + 1, Nat.succ_pos k, rfl, ?_⟩⟩
    intro j hpos hlt
    obtain ⟨j, rfl⟩ := Nat.exists_eq_succ_of_ne_zero (Nat.ne_of_gt hpos)
    exact hbefore (j + 1) hlt

/-! ## One name after the other -/

/-- Names that are chosen later see those that were chosen before as taken. -/
theorem chooseMany_append (taken before after : List Text) :
    chooseMany taken (before ++ after) = chooseMany taken before ++
      chooseMany ((chooseMany taken before).reverse ++ taken) after := by
  induction before generalizing taken with
  | nil => rfl
  | cons base before ih => simp [chooseMany, reserve, ih]

/-- **Fresh names are the first free ones.** The search without a bound halts, for every wanted name
and all taken names, at the name that is given out. It is the first free one, and it is the only
one that is taken in addition from then on. So each of several names is the first free one beside
the taken names and those given out before, and no two are the same. The result of a visitor in
Java is named by the same search. -/
theorem reserve_first_free (base : Text) (taken : List Text) :
    (∃ rounds ≤ taken.length, eval (Attempt.next? base taken) ⟨base, 1⟩ =
      .some ⟨(reserve base taken).1, rounds + 1⟩) ∧
    IsFirstFree base taken (reserve base taken).1 ∧
    (∀ name, name ∈ (reserve base taken).2 ↔ name = (reserve base taken).1 ∨ name ∈ taken) ∧
    (∀ bases, (chooseMany taken bases).Nodup) ∧
    (∀ before wanted after, ∃ name later,
      chooseMany taken (before ++ wanted :: after) = chooseMany taken before ++ name :: later ∧
      IsFirstFree wanted ((chooseMany taken before).reverse ++ taken) name) ∧
    (∃ rounds ≤ taken.length, eval (Attempt.next? "ResultType" taken) ⟨"ResultType", 1⟩ =
      .some ⟨Java.resultParam taken, rounds + 1⟩) ∧
    IsFirstFree "ResultType" taken (Java.resultParam taken) := by
  refine ⟨eval_next? base taken, isFirstFree_choose base taken, fun name => List.mem_cons,
    chooseMany_nodup taken, fun before wanted after => ?_, eval_next? "ResultType" taken,
    isFirstFree_choose "ResultType" taken⟩
  exact ⟨_, _, chooseMany_append taken before (wanted :: after), isFirstFree_choose wanted _⟩

/-- Names that carry numbers already are in the way like any others. -/
example : chooseMany ["v1", "v"] ["v", "v", "v2"] = ["v2", "v3", "v21"] := by decide +kernel

end AdtCompiler.FreshName
