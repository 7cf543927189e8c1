import AdtCompiler.Text.FreshName
import Mathlib.Data.List.Nodup
import Mathlib.Data.List.Perm.Subperm

/-!
# Fresh names are fresh

Numerals differ for different numbers, so the candidates for a name are all different, and a list
of taken names cannot hold one candidate more than it has members. The search therefore ends at a
free candidate, and at the first one.

## Contents

- `Text.toNat?_decimal`: a numeral is read back as its number
- `FreshName.exists_choose`: the chosen name is the first free candidate
- `FreshName.chooseMany_nodup`, `FreshName.not_mem_of_mem_chooseMany`
-/

namespace AdtCompiler

/-! ## Numerals -/

namespace Text

theorem isDigit_digit {n : Nat} (h : n < 10) : isDigit (digit n) = true := by
  have hall : ∀ n < 10, isDigit (digit n) = true := by decide
  exact hall n h

theorem toNat_digit {n : Nat} (h : n < 10) : (digit n).toNat - 48 = n := by
  have hall : ∀ n < 10, (digit n).toNat - 48 = n := by decide
  exact hall n h

theorem decimal_ne_nil (n : Nat) : decimal n ≠ [] := by
  unfold decimal
  split <;> simp

theorem all_isDigit_decimal (n : Nat) : (decimal n).all isDigit = true := by
  fun_induction decimal n with
  | case1 n h => simp [isDigit_digit h]
  | case2 n h ih => simp [ih, isDigit_digit (Nat.mod_lt n (by decide : 10 > 0))]

theorem foldl_decimal (n : Nat) :
    (decimal n).foldl (fun v b => v * 10 + (b.toNat - 48)) 0 = n := by
  fun_induction decimal n with
  | case1 n h => simp [toNat_digit h]
  | case2 n h ih =>
    rw [List.foldl_append, ih]
    simp only [List.foldl_cons, List.foldl_nil, toNat_digit (Nat.mod_lt n (by decide : 10 > 0))]
    omega

/-- A numeral is read back as its number. -/
theorem toNat?_decimal (n : Nat) : toNat? (decimal n) = some n := by
  simp [toNat?, decimal_ne_nil, all_isDigit_decimal, foldl_decimal]

theorem decimal_injective : Function.Injective decimal := by
  intro m n h
  have hread : toNat? (decimal m) = toNat? (decimal n) := congrArg toNat? h
  simpa [toNat?_decimal] using hread

end Text

namespace FreshName

/-! ## Candidates -/

theorem candidate_injective (base : Text) : Function.Injective (candidate base) := by
  intro m n h
  match m, n with
  | 0, 0 => rfl
  | 0, n + 1 => simp [candidate, Text.decimal_ne_nil] at h
  | m + 1, 0 => simp [candidate, Text.decimal_ne_nil] at h
  | m + 1, n + 1 => exact Text.decimal_injective (List.append_cancel_left h)

/-- A list holds at most as many names of a sequence as it has members, so among one name more
there is a free one. -/
theorem exists_free {names : Nat → Text} (hnames : Function.Injective names) (taken : List Text)
    (number : Nat) : ∃ k ≤ taken.length, names (number + k) ∉ taken := by
  by_contra hall
  push Not at hall
  have hsubset : (List.range (taken.length + 1)).map (fun k => names (number + k)) ⊆ taken := by
    intro name hname
    obtain ⟨k, hk, rfl⟩ := List.mem_map.mp hname
    exact hall k (Nat.le_of_lt_succ (List.mem_range.mp hk))
  have hnodup : ((List.range (taken.length + 1)).map fun k => names (number + k)).Nodup :=
    List.nodup_range.map fun _ _ h => Nat.add_left_cancel (hnames h)
  have hlength := (hnodup.subperm hsubset).length_le
  rw [List.length_map, List.length_range] at hlength
  omega

/-! ## The search -/

/-- The search stops at the first free name, or where its fuel ends. -/
theorem search_eq (names : Nat → Text) (taken : List Text) (number fuel : Nat) :
    ∃ k, number ≤ k ∧ search names taken number fuel = names k ∧
      (∀ j, number ≤ j → j < k → names j ∈ taken) ∧
      (names k ∉ taken ∨ k = number + fuel) := by
  fun_induction search names taken number fuel with
  | case1 number => exact ⟨number, Nat.le_refl _, rfl, fun j _ _ => by omega, .inr rfl⟩
  | case2 number fuel htaken ih =>
    obtain ⟨k, hk, heq, hbefore, hend⟩ := ih
    refine ⟨k, by omega, heq, fun j hj hjk => ?_, hend.imp_right fun h => by omega⟩
    rcases Nat.eq_or_lt_of_le hj with rfl | hj
    · exact List.contains_iff_mem.mp htaken
    · exact hbefore j hj hjk
  | case3 number fuel hfree =>
    exact ⟨number, Nat.le_refl _, rfl, fun j _ _ => by omega,
      .inl fun hmem => hfree (List.contains_iff_mem.mpr hmem)⟩

/-- With as much fuel as there are names taken, the search ends at the first free name. -/
theorem exists_search {names : Nat → Text} (hnames : Function.Injective names) (taken : List Text)
    (number : Nat) :
    ∃ k, number ≤ k ∧ search names taken number taken.length = names k ∧ names k ∉ taken ∧
      ∀ j, number ≤ j → j < k → names j ∈ taken := by
  obtain ⟨k, hk, heq, hbefore, hend⟩ := search_eq names taken number taken.length
  refine ⟨k, hk, heq, ?_, hbefore⟩
  rcases hend with hfree | hlast
  · exact hfree
  · -- all names before the last one tried are taken, so the free one is that one
    obtain ⟨free, hle, hfree⟩ := exists_free hnames taken number
    have hsame : number + free = k := by
      by_contra hne
      exact hfree (hbefore _ (Nat.le_add_right number free) (by omega))
    exact hsame ▸ hfree

/-- **The chosen name is the first free candidate.** -/
theorem exists_choose (base : Text) (taken : List Text) :
    ∃ k, choose base taken = candidate base k ∧ candidate base k ∉ taken ∧
      ∀ j < k, candidate base j ∈ taken := by
  obtain ⟨k, -, heq, hfree, hbefore⟩ := exists_search (candidate_injective base) taken 0
  exact ⟨k, heq, hfree, fun j hj => hbefore j (Nat.zero_le j) hj⟩

/-- A chosen name is not taken. -/
theorem choose_not_mem (base : Text) (taken : List Text) : choose base taken ∉ taken := by
  obtain ⟨k, heq, hfree, -⟩ := exists_choose base taken
  exact heq ▸ hfree

/-- A chosen name extends the wanted one. -/
theorem extends_choose (base : Text) (taken : List Text) : base <+: choose base taken := by
  obtain ⟨k, heq, -, -⟩ := exists_choose base taken
  rw [heq]
  cases k with
  | zero => exact List.prefix_rfl
  | succ k => exact List.prefix_append _ _

/-! ## Several names -/

@[simp] theorem length_chooseMany (taken bases : List Text) :
    (chooseMany taken bases).length = bases.length := by
  induction bases generalizing taken with
  | nil => rfl
  | cons base bases ih => simp [chooseMany, ih]

/-- None of several chosen names is taken. -/
theorem not_mem_of_mem_chooseMany {taken bases : List Text} {name : Text}
    (h : name ∈ chooseMany taken bases) : name ∉ taken := by
  induction bases generalizing taken with
  | nil => cases h
  | cons base bases ih =>
    rcases List.mem_cons.mp h with rfl | h
    · exact choose_not_mem base taken
    · exact fun hmem => ih h (List.mem_cons_of_mem _ hmem)

/-- Several chosen names are different: each counts as taken for the ones behind it. -/
theorem chooseMany_nodup (taken bases : List Text) : (chooseMany taken bases).Nodup := by
  induction bases generalizing taken with
  | nil => exact .nil
  | cons base bases ih =>
    refine List.nodup_cons.mpr ⟨fun hmem => ?_, ih _⟩
    exact not_mem_of_mem_chooseMany hmem List.mem_cons_self

end FreshName

end AdtCompiler
