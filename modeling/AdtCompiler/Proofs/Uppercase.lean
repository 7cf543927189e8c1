import AdtCompiler.Text.Uppercase
import AdtCompiler.Text.Utf8

/-!
# Upper case has no small letters

No code point has a small ASCII letter as its upper-case partner. For ASCII the rule says so, and
beyond ASCII it is a fact about every entry of a written table. The text of the table is read once
more for that, entry by entry and without collecting the entries.

## Contents

- `RangeTable.find?_spec`: what is found in a table is an entry of it
- `RangeTable.Reader.allRead`: a property of all entries of a written table
- `toUpper_spec`
-/

namespace AdtCompiler.Text

namespace RangeTable

/-! ## Entries that are found -/

theorem findBetween_spec {t : RangeTable} {c lo hi : Nat} {e : RangeEntry}
    (h : t.findBetween c lo hi = some e) : e ∈ t.entries ∧ e.first ≤ c ∧ c ≤ e.last := by
  fun_induction findBetween t c lo hi with
  | case1 | case5 => cases h
  | case2 lo hi hlt mid entry hentry hbelow ih => exact ih h
  | case3 lo hi hlt mid entry hentry hbelow habove ih => exact ih h
  | case4 lo hi hlt mid entry hentry hbelow habove =>
    cases h
    exact ⟨Array.mem_of_getElem? hentry, Nat.not_lt.mp hbelow, Nat.not_lt.mp habove⟩

/-- What is found is an entry of the table that holds the code point. -/
theorem find?_spec {t : RangeTable} {c : Nat} {e : RangeEntry} (h : t.find? c = some e) :
    e ∈ t.entries ∧ e.first ≤ c ∧ c ≤ e.last :=
  findBetween_spec h

/-! ## Entries that are read -/

namespace Reader

/-- The reader without the entries that it has read. -/
def pending (r : Reader) : Reader := { r with entries := #[] }

/-- Ending an entry adds it behind those that were read, whatever these are. -/
theorem finish_entries (r : Reader) :
    r.finish.entries = r.entries ++ r.pending.finish.entries ∧
      r.finish.pending = r.pending.finish.pending := by
  obtain ⟨entries, number, first, last, values⟩ := r
  cases number <;> cases first <;> cases last <;> simp [finish, pending]

/-- Reading a character adds no more than ending an entry does. -/
theorem step_entries (r : Reader) (c : Char) :
    (r.step c).entries = r.entries ++ (r.pending.step c).entries ∧
      (r.step c).pending = (r.pending.step c).pending := by
  unfold step
  split
  · simp [pending]
  · by_cases hdash : c = '-'
    · simp [hdash, pending]
    by_cases hequals : c = '='
    · simp [hequals, pending]
    by_cases hcomma : c = ','
    · simp [hcomma, pending]
    simpa [hdash, hequals, hcomma] using r.finish_entries

/-- Whether all entries that are still to be read have a property. The reader is taken apart at
every character, so that the next one starts from what it has become. -/
def allRead (p : RangeEntry → Bool) : List Char → Reader → Bool
  | [], r => r.finish.entries.toList.all p
  | c :: rest, r =>
    match r.step c with
    | ⟨entries, number, first, last, values⟩ =>
      entries.toList.all p && allRead p rest ⟨#[], number, first, last, values⟩

theorem all_foldl_step (p : RangeEntry → Bool) (cs : List Char) (r : Reader) :
    (cs.foldl step r).finish.entries.toList.all p =
      (r.entries.toList.all p && allRead p cs r.pending) := by
  induction cs generalizing r with
  | nil => simp [r.finish_entries.1, allRead]
  | cons c cs ih =>
    obtain ⟨hentries, hpending⟩ := r.step_entries c
    have hread : allRead p (c :: cs) r.pending =
        ((r.pending.step c).entries.toList.all p && allRead p cs (r.pending.step c).pending) := rfl
    rw [List.foldl_cons, ih, hread, hentries, hpending, Array.toList_append, List.all_append,
      Bool.and_assoc]

end Reader

/-- A property of all entries that are read from a text holds of all entries of the table. -/
theorem forall_mem_ofString {p : RangeEntry → Bool} {cs : List Char}
    (h : Reader.allRead p cs {} = true) :
    ∀ e ∈ (ofString (String.ofList cs)).entries, p e = true := by
  have hfold : (ofString (String.ofList cs)).entries =
      (cs.foldl Reader.step {}).finish.entries := by
    rw [ofString, String.foldl_eq_foldl_toList, String.toList_ofList]
  have hread : (ofString (String.ofList cs)).entries.toList.all p = true := by
    rw [hfold, Reader.all_foldl_step]
    simpa [Reader.pending] using h
  intro e he
  exact List.all_eq_true.mp hread e (Array.mem_toList_iff.mpr he)

end RangeTable

/-! ## Upper case -/

/-- Whether the partners of a range are no small ASCII letters, and code points. -/
def RangeEntry.movesClear (e : RangeEntry) : Bool :=
  match e.values with
  | base :: _ =>
    (base + (e.last - e.first) < 0x61 || 0x7A < base) && base + (e.last - e.first) < 0x110000
  | [] => true

theorem movesClear_of_mem_uppercaseTable :
    ∀ e ∈ uppercaseTable.entries, e.movesClear = true := by
  unfold uppercaseTable
  apply RangeTable.forall_mem_ofString
  decide +kernel

/-- The upper-case partner of a code point is a code point, and no small ASCII letter. -/
theorem toUpper_spec {c : Nat} (h : c < 0x110000) :
    toUpper c < 0x110000 ∧ ¬ (0x61 ≤ toUpper c ∧ toUpper c ≤ 0x7A) := by
  unfold toUpper
  split
  · split <;> omega
  · split
    case h_1 first last base more hfound =>
      obtain ⟨hmem, hfirst, hlast⟩ := RangeTable.find?_spec hfound
      have hclear := movesClear_of_mem_uppercaseTable _ hmem
      simp only [RangeEntry.movesClear, Bool.and_eq_true, Bool.or_eq_true,
        decide_eq_true_eq] at hclear
      simp only at hfirst hlast
      omega
    case h_2 => omega

end AdtCompiler.Text
