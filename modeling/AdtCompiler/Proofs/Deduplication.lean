import AdtCompiler.Diagnostic.Bag
import AdtCompiler.Proofs.FreshName
import AdtCompiler.Proofs.SortedOrder

/-!
# Reports in order and without repetitions

A bag is sorted and then rid of repetitions before it is reported. Repetitions are told by one text
that holds the printed code, the span and the message, and the severity is not in it. The text can
be taken apart again, so nothing is dropped that says something else. Among repetitions the most
serious one comes first and stays, so sorting must come before: errors are not lost.

## Contents

- `Diagnostic.key_eq_iff`: the text tells code, span and message
- `Diagnostic.Before`: the order of reports
- `Bag.firstsAfter_sublist`, `Bag.pairwise_firstsAfter`, `Bag.exists_mem_firstsAfter`: what is left
  without repetitions
- `Bag.sort_dedup_canonical`: what is reported depends on the diagnostics alone
-/

namespace AdtCompiler

/-! ## Keys -/

theorem Text.not_mem_decimal {b : UInt8} (hb : isDigit b = false) (n : Nat) : b ∉ decimal n := by
  intro hmem
  have := List.all_eq_true.mp (all_isDigit_decimal n) b hmem
  simp [hb] at this

/-- What stands before the first separator and behind it can be told apart. -/
theorem Text.append_cons_inj {b : UInt8} {s s' t t' : Text} (hs : b ∉ s) (hs' : b ∉ s')
    (h : s ++ b :: t = s' ++ b :: t') : s = s' ∧ t = t' := by
  induction s generalizing s' with
  | nil =>
    cases s' with
    | nil => exact ⟨rfl, by simpa using h⟩
    | cons c s' => exact absurd (List.cons.inj h).1 (List.ne_of_not_mem_cons hs')
  | cons c s ih =>
    cases s' with
    | nil => exact absurd (List.cons.inj h).1.symm (List.ne_of_not_mem_cons hs)
    | cons c' s' =>
      obtain ⟨hhead, htail⟩ := List.cons.inj h
      obtain ⟨hs, ht⟩ :=
        ih (List.not_mem_of_not_mem_cons hs) (List.not_mem_of_not_mem_cons hs') htail
      exact ⟨by rw [hhead, hs], ht⟩

/-- A numeral ends where its digits do. -/
theorem Text.decimal_append_inj {m n : Nat} (b : UInt8) (hb : isDigit b = false) {s t : Text}
    (h : decimal m ++ b :: s = decimal n ++ b :: t) : m = n ∧ s = t :=
  (append_cons_inj (not_mem_decimal hb m) (not_mem_decimal hb n) h).imp_left
    fun heq => decimal_injective heq

/-- The text of a span can be taken apart at its colon and its hyphen, and ends where the digits
do. -/
theorem Span.text_append_inj {s s' : Span} (b : UInt8) (hb : Text.isDigit b = false) {t t' : Text}
    (h : s.text ++ b :: t = s'.text ++ b :: t') : s = s' ∧ t = t' := by
  obtain ⟨file, start, stop⟩ := s
  obtain ⟨file', start', stop'⟩ := s'
  simp only [Span.text, List.append_assoc] at h
  obtain ⟨hfile, h⟩ := Text.decimal_append_inj (Text.byte ':') (by decide) h
  obtain ⟨hstart, h⟩ := Text.decimal_append_inj (Text.byte '-') (by decide) h
  obtain ⟨hstop, h⟩ := Text.decimal_append_inj b hb h
  rw [UInt32.toNat_inj] at hfile hstart hstop
  exact ⟨by rw [hfile, hstart, hstop], h⟩

/-- The printed code is letters and digits. -/
theorem DiagnosticCode.colon_not_mem_id (c : DiagnosticCode) : Text.byte ':' ∉ c.id := by
  have hnumeral := Text.not_mem_decimal (b := Text.byte ':') (by decide) c.number.toNat
  unfold id
  split
  -- all codes outside the four families are printed as one text
  case h_5 => decide
  all_goals
    rw [List.mem_append]
    exact not_or.mpr ⟨by decide, hnumeral⟩

namespace Diagnostic

variable {a b : Diagnostic}

/-- Whether two diagnostics say the same: they print the same code, about the same span, with the
same message. Their severities and notes may differ. -/
structure SaysSame (a b : Diagnostic) : Prop where
  code : a.code.id = b.code.id
  span : a.span = b.span
  message : a.message = b.message

/-- Whether two diagnostics agree in everything that the order of reports looks at. -/
structure Tied (a b : Diagnostic) : Prop where
  span : a.span = b.span
  severity : a.severity = b.severity
  code : a.code = b.code
  message : a.message = b.message

instance : Decidable (a.Tied b) :=
  decidable_of_iff (a.span = b.span ∧ a.severity = b.severity ∧ a.code = b.code ∧
      a.message = b.message)
    ⟨fun h => ⟨h.1, h.2.1, h.2.2.1, h.2.2.2⟩, fun h => ⟨h.span, h.severity, h.code, h.message⟩⟩

theorem SaysSame.symm (h : a.SaysSame b) : b.SaysSame a :=
  ⟨h.code.symm, h.span.symm, h.message.symm⟩

theorem Tied.saysSame (h : a.Tied b) : a.SaysSame b :=
  ⟨congrArg DiagnosticCode.id h.code, h.span, h.message⟩

/-- The key of a diagnostic tells what it says, and nothing else. -/
theorem key_eq_iff : a.key = b.key ↔ a.SaysSame b := by
  constructor
  · intro h
    simp only [key, List.append_assoc] at h
    -- the code has no colon, so the first one is that behind it
    obtain ⟨hcode, h⟩ :=
      Text.append_cons_inj a.code.colon_not_mem_id b.code.colon_not_mem_id h
    obtain ⟨hspan, hmessage⟩ := Span.text_append_inj (Text.byte ':') (by decide) h
    exact ⟨hcode, hspan, hmessage⟩
  · rintro ⟨hcode, hspan, hmessage⟩
    rw [key, key, hcode, hspan, hmessage]

theorem repeats_iff : a.repeats b = true ↔ a.SaysSame b := by
  rw [repeats, beq_iff_eq, key_eq_iff]

/-! ## The order of reports -/

/-- Whether a diagnostic is reported before another: by file, start and end of the span, the more
serious first, then by the number of the code and by the bytes of the message. -/
def Before (a b : Diagnostic) : Prop :=
  a.span.file < b.span.file ∨ a.span.file = b.span.file ∧
    (a.span.start < b.span.start ∨ a.span.start = b.span.start ∧
      (a.span.stop < b.span.stop ∨ a.span.stop = b.span.stop ∧
        (b.severity.level < a.severity.level ∨ b.severity.level = a.severity.level ∧
          (a.code.number < b.code.number ∨ a.code.number = b.code.number ∧
            a.message < b.message))))

theorem compare_eq_lt_iff : a.compare b = .lt ↔ a.Before b := by
  simp only [compare, Before, Ordering.then_eq_lt, Std.compare_eq_lt,
    Std.LawfulEqCmp.compare_eq_iff_eq, Text.compare_eq_lt_iff]

theorem compare_eq_eq_iff : a.compare b = .eq ↔ a.Tied b := by
  obtain ⟨⟨level⟩, ⟨number⟩, ⟨file, start, stop⟩, message, notes⟩ := a
  obtain ⟨⟨level'⟩, ⟨number'⟩, ⟨file', start', stop'⟩, message', notes'⟩ := b
  simp only [compare, Ordering.then_eq_eq, Std.LawfulEqCmp.compare_eq_iff_eq]
  constructor
  · rintro ⟨rfl, rfl, rfl, rfl, rfl, rfl⟩
    exact ⟨rfl, rfl, rfl, rfl⟩
  · rintro ⟨hspan, hseverity, hcode, hmessage⟩
    cases hspan
    cases hseverity
    cases hcode
    exact ⟨rfl, rfl, rfl, rfl, rfl, hmessage⟩

instance : Std.TransCmp compare := by
  -- comparing key after key is a lexicographic comparison, whose laws follow from those of its keys
  have hcompare : compare = compareLex (compareOn (·.span.file)) (compareLex
      (compareOn (·.span.start)) (compareLex (compareOn (·.span.stop)) (compareLex
        (fun a b => compareOn (·.severity.level) b a) (compareLex (compareOn (·.code.number))
          (compareOn (·.message)))))) := by
    funext a b
    rw [compare, Text.compare_eq]
    rfl
  rw [hcompare]
  infer_instance

/-- Of two diagnostics about one span, the more serious comes first. -/
theorem level_le_of_le (h : a.le b = true) (hspan : a.span = b.span) :
    b.severity.level ≤ a.severity.level := by
  rw [← UInt8.not_lt]
  intro hlt
  have hgt : Ord.compare b.severity.level a.severity.level = .gt := Std.compare_eq_gt.mpr hlt
  simp [le, compare, hspan, hgt] at h

/-- What comes before another diagnostic or ties with it, and says something else, comes before
it. -/
theorem before_of_le (h : a.le b = true) (hdiffer : ¬ a.SaysSame b) : a.Before b := by
  rw [← compare_eq_lt_iff]
  cases hcompare : a.compare b with
  | lt => rfl
  | eq => exact absurd (compare_eq_eq_iff.mp hcompare).saysSame hdiffer
  | gt => simp [le, hcompare] at h

end Diagnostic

/-! ## What is left without repetitions -/

namespace Bag

variable {kept items : List Diagnostic} {d : Diagnostic}

theorem any_repeats_iff : kept.any d.repeats = true ↔ ∃ k ∈ kept, d.SaysSame k := by
  simp only [List.any_eq_true, Diagnostic.repeats_iff]

theorem firstsAfter_sublist (kept items : List Diagnostic) :
    (firstsAfter kept items).Sublist items := by
  fun_induction firstsAfter kept items with
  | case1 => exact .slnil
  | case2 kept d items _ ih => exact ih.cons d
  | case3 kept d items _ ih => exact ih.cons_cons d

/-- What is left says nothing that was said before. -/
theorem not_saysSame_of_mem_firstsAfter (hd : d ∈ firstsAfter kept items) :
    ∀ k ∈ kept, ¬ d.SaysSame k := by
  fun_induction firstsAfter kept items with
  | case1 => cases hd
  | case2 kept e items _ ih => exact ih hd
  | case3 kept e items hnew ih =>
    rcases List.mem_cons.mp hd with rfl | hd
    · intro k hk hsame
      exact hnew (any_repeats_iff.mpr ⟨k, hk, hsame⟩)
    · intro k hk
      exact ih hd k (List.mem_cons_of_mem e hk)

/-- No two of those that are left say the same. -/
theorem pairwise_firstsAfter (kept items : List Diagnostic) :
    (firstsAfter kept items).Pairwise fun a b => ¬ a.SaysSame b := by
  fun_induction firstsAfter kept items with
  | case1 => exact .nil
  | case2 kept d items _ ih => exact ih
  | case3 kept d items _ ih =>
    refine List.pairwise_cons.mpr ⟨fun e he hsame => ?_, ih⟩
    exact not_saysSame_of_mem_firstsAfter he d List.mem_cons_self hsame.symm

/-- Whatever is dropped says the same as something that was kept, or as something that is left and
stands before it. -/
theorem exists_mem_firstsAfter {before : Diagnostic → Diagnostic → Prop}
    (hitems : items.Pairwise before) (hd : d ∈ items) :
    (∃ k ∈ kept, d.SaysSame k) ∨
      ∃ e ∈ firstsAfter kept items, e.SaysSame d ∧ (e = d ∨ before e d) := by
  fun_induction firstsAfter kept items with
  | case1 => cases hd
  | case2 kept c items hrepeats ih =>
    rcases List.mem_cons.mp hd with rfl | hd
    · exact .inl (any_repeats_iff.mp hrepeats)
    · exact ih (List.pairwise_cons.mp hitems).2 hd
  | case3 kept c items _ ih =>
    obtain ⟨hc, hitems⟩ := List.pairwise_cons.mp hitems
    rcases List.mem_cons.mp hd with rfl | hmem
    · exact .inr ⟨d, List.mem_cons_self, ⟨rfl, rfl, rfl⟩, .inl rfl⟩
    · rcases ih hitems hmem with ⟨k, hk, hsame⟩ | ⟨e, he, hsame⟩
      · -- what is left now counts as kept for those behind it
        rcases List.mem_cons.mp hk with rfl | hk
        · exact .inr ⟨k, List.mem_cons_self, hsame.symm, .inr (hc d hmem)⟩
        · exact .inl ⟨k, hk, hsame⟩
      · exact .inr ⟨e, List.mem_cons_of_mem c he, hsame⟩

/-! ## Sorting first -/

variable (b : Bag)

theorem pairwise_sort : b.sort.items.Pairwise fun d e => d.le e = true :=
  pairwise_mergeSort_compare b.items

theorem mem_sort : d ∈ b.sort.items ↔ d ∈ b.items := List.mem_mergeSort

theorem mem_of_mem_sort_dedup (hd : d ∈ b.sort.dedup.items) : d ∈ b.items :=
  b.mem_sort.mp ((firstsAfter_sublist [] b.sort.items).subset hd)

/-- Everything that is said is still said by what is left, and by the most serious. -/
theorem exists_mem_sort_dedup (hd : d ∈ b.items) : ∃ e ∈ b.sort.dedup.items,
    e.SaysSame d ∧ d.severity.level ≤ e.severity.level := by
  have hfirst : (∃ k ∈ ([] : List Diagnostic), d.SaysSame k) ∨
      ∃ e ∈ b.sort.dedup.items, e.SaysSame d ∧ (e = d ∨ e.le d = true) :=
    exists_mem_firstsAfter b.pairwise_sort (b.mem_sort.mpr hd)
  rcases hfirst with ⟨k, hk, -⟩ | ⟨e, he, hsame, rfl | hle⟩
  · cases hk
  · exact ⟨e, he, hsame, UInt8.le_refl _⟩
  · exact ⟨e, he, hsame, Diagnostic.level_le_of_le hle hsame.span⟩

theorem pairwise_sort_dedup : b.sort.dedup.items.Pairwise Diagnostic.Before := by
  have hsorted := b.pairwise_sort.sublist (firstsAfter_sublist [] b.sort.items)
  exact hsorted.imp₂ (fun _ _ => Diagnostic.before_of_le) (pairwise_firstsAfter [] b.sort.items)

theorem hasErrors_sort_dedup : b.sort.dedup.hasErrors = b.hasErrors := by
  rw [Bool.eq_iff_iff]
  simp only [hasErrors, List.any_eq_true, decide_eq_true_eq]
  constructor
  · rintro ⟨d, hd, herror⟩
    exact ⟨d, b.mem_of_mem_sort_dedup hd, herror⟩
  · rintro ⟨d, hd, herror⟩
    obtain ⟨e, he, -, hlevel⟩ := b.exists_mem_sort_dedup hd
    exact ⟨e, he, UInt8.le_trans herror hlevel⟩

/-- Diagnostics that were added in another order are sorted alike, unless some that tie differ in
their notes. -/
theorem sort_items_congr {items : List Diagnostic} (h : items.Perm b.items)
    (hnotes : ∀ d ∈ b.items, ∀ e ∈ b.items, d.Tied e → d.notes = e.notes) :
    { b with items }.sort = b.sort := by
  -- only the notes are not looked at by the order, so nothing that ties differs
  have hties : ∀ d ∈ items, ∀ e ∈ items, d.compare e = .eq → d = e := by
    intro d hd e he hcompare
    have htied := Diagnostic.compare_eq_eq_iff.mp hcompare
    have hsame := hnotes d (h.mem_iff.mp hd) e (h.mem_iff.mp he) htied
    obtain ⟨hspan, hseverity, hcode, hmessage⟩ := htied
    cases d
    cases e
    simp_all only
  exact congrArg (Bag.mk · b.limit) (mergeSort_compare_congr h hties)

/-- **Reports are canonical and keep errors.** Sorted and then rid of repetitions, diagnostics are
strictly in the order of reports; each of the original ones is still said, by one that is at least
as serious; no two say the same; nothing is made up; and there are errors if there were before. If
no two that tie differ in their notes, the order in which they were added does not matter. -/
theorem sort_dedup_canonical (b : Bag) :
    b.sort.dedup.items.Pairwise Diagnostic.Before ∧
    (∀ d ∈ b.items, ∃ e ∈ b.sort.dedup.items, e.code.id = d.code.id ∧ e.span = d.span ∧
      e.message = d.message ∧ d.severity.level ≤ e.severity.level) ∧
    (b.sort.dedup.items.Pairwise fun d e =>
      ¬ (d.code.id = e.code.id ∧ d.span = e.span ∧ d.message = e.message)) ∧
    (∀ d ∈ b.sort.dedup.items, d ∈ b.items) ∧
    b.sort.dedup.hasErrors = b.hasErrors ∧
    ((∀ d ∈ b.items, ∀ e ∈ b.items, d.Tied e → d.notes = e.notes) →
      ∀ items : List Diagnostic, items.Perm b.items →
        { b with items }.sort.dedup = b.sort.dedup) := by
  refine ⟨b.pairwise_sort_dedup, ?_, ?_, fun d hd => b.mem_of_mem_sort_dedup hd,
    b.hasErrors_sort_dedup, fun hnotes items h => congrArg dedup (b.sort_items_congr h hnotes)⟩
  · intro d hd
    obtain ⟨e, he, ⟨hcode, hspan, hmessage⟩, hlevel⟩ := b.exists_mem_sort_dedup hd
    exact ⟨e, he, hcode, hspan, hmessage, hlevel⟩
  · exact (pairwise_firstsAfter [] b.sort.items).imp
      fun hdiffer ⟨hcode, hspan, hmessage⟩ => hdiffer ⟨hcode, hspan, hmessage⟩

/-- Without sorting, a warning can hide an error that says the same. -/
example :
    let b : Bag := ⟨[⟨.warning, .unknown, default, [], []⟩, .error .unknown default []], 2⟩
    b.hasErrors = true ∧ b.dedup.hasErrors = false := by
  decide +kernel

/-- A warning and an error whose codes differ and are printed alike. -/
def printedAlike : Bag :=
  ⟨[⟨.warning, ⟨0⟩, ⟨0, 3, 4⟩, "x", []⟩,
    ⟨.error, ⟨5000⟩, ⟨0, 3, 4⟩, "x", [⟨⟨0, 1, 2⟩, "first"⟩]⟩], 2⟩

/-- The error is reported in either order. -/
theorem sort_dedup_canonical_printedAlike :
    (∀ d ∈ printedAlike.items, ∀ e ∈ printedAlike.items, d.Tied e → d.notes = e.notes) ∧
    { printedAlike with items := printedAlike.items.reverse }.sort.dedup =
      printedAlike.sort.dedup ∧
    printedAlike.sort.dedup.hasErrors = true := by
  have hnotes : ∀ d ∈ printedAlike.items, ∀ e ∈ printedAlike.items,
      d.Tied e → d.notes = e.notes := by
    decide +kernel
  obtain ⟨-, -, -, -, herrors, horder⟩ := sort_dedup_canonical printedAlike
  exact ⟨hnotes, horder hnotes _ (List.reverse_perm _), herrors.trans (by decide)⟩

end Bag

end AdtCompiler
