import AdtCompiler.Proofs.Path
import AdtCompiler.Source.Normalize

/-!
# Line ends are normalised line by line

Before a source is read, a leading byte-order mark and the carriage returns of paired line ends are
dropped. Positions are counted in what is left, so it matters that a byte which stays is on the line
on which it was. Two views are given: line by line, and by the offsets of the bytes that stay.

## Contents

- `Source.getElem?_splitOn_joinLineEnds`: what becomes of each line
- `Source.map_getElem?_unpaired`, `Source.count_take_unpaired`: which bytes stay, and on which line
- `Source.normalization_keeps_lines`
-/

namespace AdtCompiler.Source

variable {s t : Text} {i : Nat}

/-! ## Lines -/

/-- The text without one carriage return at its end. -/
def withoutReturn (line : Text) : Text :=
  if line.getLast? = some carriageReturn then line.dropLast else line

/-- The byte-order mark. -/
def byteOrderMark : Text := [0xEF, 0xBB, 0xBF]

/-- The text without one byte-order mark at its beginning. -/
def withoutMark (line : Text) : Text :=
  if byteOrderMark <+: line then line.drop byteOrderMark.length else line

theorem removeByteOrderMark_fst (t : Text) : (removeByteOrderMark t).1 = withoutMark t := by
  unfold removeByteOrderMark
  split
  next rest => simp [withoutMark, byteOrderMark]
  next h =>
    refine (if_neg ?_).symm
    rintro ⟨rest, rfl⟩
    exact h rest rfl

theorem withoutReturn_cons_cons (b c : UInt8) (s : Text) :
    withoutReturn (b :: c :: s) = b :: withoutReturn (c :: s) := by
  simp only [withoutReturn, List.getLast?_cons_cons, List.dropLast_cons_cons]
  split <;> rfl

theorem not_mem_withoutReturn {b : UInt8} (h : b ∉ s) : b ∉ withoutReturn s := by
  unfold withoutReturn
  split
  · exact fun hmem => h (List.dropLast_subset s hmem)
  · exact h

/-- A byte that is not the first of a paired line end stays. -/
theorem joinLineEnds_cons {b : UInt8} (h : ¬ (b = carriageReturn ∧ t.head? = some newline)) :
    joinLineEnds (b :: t) = b :: joinLineEnds t :=
  if_neg h

/-- Without line feeds nothing is dropped. -/
theorem joinLineEnds_of_not_mem (h : newline ∉ t) : joinLineEnds t = t := by
  fun_induction joinLineEnds t with
  | case1 => rfl
  | case2 b t hpair ih =>
    exact absurd (List.mem_cons_of_mem b (List.mem_of_mem_head? hpair.2)) h
  | case3 b t _ ih => rw [ih (List.not_mem_of_not_mem_cons h)]

/-- A line that ends loses one carriage return before its end. -/
theorem joinLineEnds_append_newline (hs : newline ∉ s) (t : Text) :
    joinLineEnds (s ++ newline :: t) = withoutReturn s ++ newline :: joinLineEnds t := by
  have hfeed : joinLineEnds (newline :: t) = newline :: joinLineEnds t :=
    joinLineEnds_cons fun h => absurd h.1 (by decide)
  induction s with
  | nil => exact hfeed
  | cons b s ih =>
    have hs' := List.not_mem_of_not_mem_cons hs
    cases s with
    | nil =>
      by_cases hb : b = carriageReturn
      · subst hb
        exact hfeed
      · have hline : withoutReturn [b] = [b] := if_neg fun h => hb (Option.some.inj h)
        rw [hline, List.singleton_append, joinLineEnds_cons fun h => hb h.1, hfeed]
        rfl
    | cons c s =>
      -- the next byte is on the same line, so it is no line feed
      have hc : c ≠ newline := (List.ne_of_not_mem_cons hs').symm
      have hb : joinLineEnds (b :: (c :: s ++ newline :: t)) =
          b :: joinLineEnds (c :: s ++ newline :: t) :=
        joinLineEnds_cons fun h => hc (Option.some.inj h.2)
      rw [withoutReturn_cons_cons, List.cons_append, hb, ih hs']
      rfl

theorem count_joinLineEnds (t : Text) : (joinLineEnds t).count newline = t.count newline := by
  fun_induction joinLineEnds t with
  | case1 => rfl
  | case2 b t hpair ih =>
    rw [ih, hpair.1]
    rfl
  | case3 b t _ ih => rw [List.count_cons, List.count_cons, ih]

/-- Every line that ends loses one carriage return before its end, and the last stays as it is. -/
theorem getElem?_splitOn_joinLineEnds (t : Text) (k : Nat) :
    (Text.splitOn newline (joinLineEnds t))[k]? = (Text.splitOn newline t)[k]?.map fun line =>
      if k < t.count newline then withoutReturn line else line := by
  -- By the number of line feeds: the first line and its end are taken off at each step.
  induction hn : t.count newline generalizing t k with
  | zero =>
    have ht : newline ∉ t := List.count_eq_zero.mp hn
    simp [joinLineEnds_of_not_mem ht, Text.splitOn_of_not_mem ht]
  | succ n ih =>
    have hmem : newline ∈ t := List.count_pos_iff.mp (by omega)
    obtain ⟨s, u, rfl, hs⟩ := List.eq_append_cons_of_mem hmem
    have hu : u.count newline = n := by
      simpa [List.count_append, List.count_eq_zero.mpr hs] using hn
    rw [joinLineEnds_append_newline hs, Text.splitOn_append_sep, Text.splitOn_append_sep,
      Text.splitOn_of_not_mem hs, Text.splitOn_of_not_mem (not_mem_withoutReturn hs)]
    cases k with
    | zero => simp
    | succ k => simpa using ih u k hu

theorem not_mem_byteOrderMark : newline ∉ byteOrderMark ∧ carriageReturn ∉ byteOrderMark := by
  decide

theorem count_withoutMark (t : Text) : (withoutMark t).count newline = t.count newline := by
  unfold withoutMark
  split
  next h =>
    obtain ⟨rest, rfl⟩ := h
    simp [List.count_append, List.count_eq_zero.mpr not_mem_byteOrderMark.1]
  next => rfl

/-- A byte-order mark at the beginning is on the first line. -/
theorem mark_prefix_append_newline (t : Text) :
    byteOrderMark <+: s ++ newline :: t ↔ byteOrderMark <+: s := by
  refine ⟨fun h => ?_, fun h => h.trans (List.prefix_append _ _)⟩
  rcases List.prefix_or_prefix_of_prefix h (List.prefix_append s _) with hmark | ⟨rest, hrest⟩
  · exact hmark
  · cases rest with
    | nil => exact ⟨[], by simpa using hrest.symm⟩
    | cons b rest =>
      -- a longer mark would hold the line feed
      rw [← hrest, List.prefix_append_right_inj, List.cons_prefix_cons] at h
      refine absurd ?_ not_mem_byteOrderMark.1
      rw [← hrest, h.1]
      simp

theorem withoutMark_append_newline (s t : Text) :
    withoutMark (s ++ newline :: t) = withoutMark s ++ newline :: t := by
  by_cases h : byteOrderMark <+: s
  · rw [withoutMark, if_pos ((mark_prefix_append_newline t).mpr h), withoutMark, if_pos h,
      List.drop_append_of_le_length h.length_le]
  · rw [withoutMark, if_neg fun hmark => h ((mark_prefix_append_newline t).mp hmark), withoutMark,
      if_neg h]

theorem not_mem_withoutMark {b : UInt8} (h : b ∉ s) : b ∉ withoutMark s := by
  unfold withoutMark
  split
  · exact fun hmem => h (List.mem_of_mem_drop hmem)
  · exact h

/-- The mark is dropped from the first line, and the others stay as they are. -/
theorem getElem?_splitOn_withoutMark (t : Text) (k : Nat) :
    (Text.splitOn newline (withoutMark t))[k]? = (Text.splitOn newline t)[k]?.map fun line =>
      if k = 0 then withoutMark line else line := by
  by_cases hmem : newline ∈ t
  · obtain ⟨s, u, rfl, hs⟩ := List.eq_append_cons_of_mem hmem
    rw [withoutMark_append_newline, Text.splitOn_append_sep, Text.splitOn_append_sep,
      Text.splitOn_of_not_mem hs, Text.splitOn_of_not_mem (not_mem_withoutMark hs)]
    cases k <;> simp
  · rw [Text.splitOn_of_not_mem hmem, Text.splitOn_of_not_mem (not_mem_withoutMark hmem)]
    cases k <;> simp

/-! ## Bytes that stay -/

/-- Whether a carriage return stands at an offset, directly before a line feed. -/
def IsPaired (t : Text) (i : Nat) : Prop :=
  t[i]? = some carriageReturn ∧ t[i + 1]? = some newline

instance (t : Text) (i : Nat) : Decidable (IsPaired t i) :=
  inferInstanceAs (Decidable (_ ∧ _))

/-- The offsets of the bytes that are no carriage return of a paired line end. -/
def unpaired (t : Text) : List Nat := (List.range t.length).filter fun i => ¬ IsPaired t i

theorem isPaired_zero (b : UInt8) (t : Text) :
    IsPaired (b :: t) 0 ↔ b = carriageReturn ∧ t.head? = some newline := by
  simp [IsPaired, List.head?_eq_getElem?]

theorem unpaired_cons (b : UInt8) (t : Text) :
    unpaired (b :: t) = (if b = carriageReturn ∧ t.head? = some newline then [] else [0]) ++
      (unpaired t).map (· + 1) := by
  -- behind the first byte the question is the same, one offset further on
  have hshift : ((List.range t.length).map Nat.succ).filter (fun i => ¬ IsPaired (b :: t) i) =
      (unpaired t).map (· + 1) := by
    rw [List.filter_map]
    rfl
  rw [unpaired, List.length_cons, List.range_succ_eq_map, List.filter_cons, hshift]
  by_cases h : b = carriageReturn ∧ t.head? = some newline
  · rw [if_pos h, if_neg (by simp [isPaired_zero, h])]
    rfl
  · rw [if_neg h, if_pos (by simp only [isPaired_zero, h, not_false_eq_true, decide_true])]
    rfl

/-- The bytes that are left are those at the offsets that stay, in order. -/
theorem map_getElem?_unpaired (t : Text) :
    (unpaired t).map (t[·]?) = (joinLineEnds t).map some := by
  fun_induction joinLineEnds t with
  | case1 => rfl
  | case2 b t hpair ih =>
    rw [unpaired_cons, if_pos hpair, List.nil_append, List.map_map, ← ih]
    rfl
  | case3 b t hpair ih =>
    rw [unpaired_cons, if_neg hpair, List.singleton_append, List.map_cons, List.map_map,
      List.map_cons, ← ih]
    rfl

/-- A byte that stays has as many line feeds before it as it had. -/
theorem count_take_unpaired (t : Text) {j i : Nat} (h : (unpaired t)[j]? = some i) :
    ((joinLineEnds t).take j).count newline = (t.take i).count newline := by
  fun_induction joinLineEnds t generalizing j i with
  | case1 => simp [unpaired] at h
  | case2 b t hpair ih =>
    rw [unpaired_cons, if_pos hpair, List.nil_append, List.getElem?_map] at h
    obtain ⟨i, hi, rfl⟩ := Option.map_eq_some_iff.mp h
    rw [ih hi, List.take_succ_cons, hpair.1]
    rfl
  | case3 b t hpair ih =>
    rw [unpaired_cons, if_neg hpair, List.singleton_append] at h
    cases j with
    | zero =>
      cases h
      rfl
    | succ j =>
      rw [List.getElem?_cons_succ, List.getElem?_map] at h
      obtain ⟨i, hi, rfl⟩ := Option.map_eq_some_iff.mp h
      rw [List.take_succ_cons, List.take_succ_cons, List.count_cons, List.count_cons, ih hi]

theorem hasPairedLineEnd_iff (t : Text) : hasPairedLineEnd t = true ↔ ∃ i, IsPaired t i := by
  induction t with
  | nil => simp [hasPairedLineEnd, IsPaired]
  | cons b t ih =>
    rw [hasPairedLineEnd, Bool.or_eq_true, ih]
    constructor
    · rintro (h | ⟨i, h⟩)
      · exact ⟨0, (isPaired_zero b t).mpr (by simpa using h)⟩
      · exact ⟨i + 1, h⟩
    · rintro ⟨i, h⟩
      cases i with
      | zero => exact .inl (by simpa using (isPaired_zero b t).mp h)
      | succ i => exact .inr ⟨i, h⟩

/-! ## Both steps together -/

/-- The number of bytes of a byte-order mark at the beginning. -/
def markLength (t : Text) : Nat := if byteOrderMark <+: t then byteOrderMark.length else 0

/-- The offsets of the bytes that stay: they belong to no byte-order mark at the beginning, and are
no carriage return of a paired line end. -/
def keptOffsets (t : Text) : List Nat :=
  (List.range t.length).filter fun i => markLength t ≤ i ∧ ¬ IsPaired t i

theorem drop_markLength (t : Text) : t.drop (markLength t) = withoutMark t := by
  unfold markLength withoutMark
  split <;> rfl

theorem mem_mark_of_mem_take {b : UInt8} (h : b ∈ t.take (markLength t)) : b ∈ byteOrderMark := by
  unfold markLength at h
  split at h
  next hmark =>
    obtain ⟨rest, rfl⟩ := hmark
    simpa using h
  next => simp at h

theorem markLength_add_length (t : Text) :
    markLength t + (withoutMark t).length = t.length := by
  have hle : markLength t ≤ t.length := by
    unfold markLength
    split
    next hmark => exact hmark.length_le
    next => exact Nat.zero_le _
  rw [← drop_markLength, List.length_drop]
  omega

theorem isPaired_withoutMark (t : Text) (i : Nat) :
    IsPaired (withoutMark t) i ↔ IsPaired t (markLength t + i) := by
  simp only [IsPaired, ← drop_markLength, List.getElem?_drop, Nat.add_assoc]

/-- A carriage return is not in a byte-order mark. -/
theorem markLength_le_of_return (h : t[i]? = some carriageReturn) : markLength t ≤ i := by
  by_contra hlt
  have hmem : (t.take (markLength t))[i]? = some carriageReturn := by
    rw [List.getElem?_take_of_lt (Nat.lt_of_not_le hlt), h]
  exact not_mem_byteOrderMark.2 (mem_mark_of_mem_take (List.mem_of_getElem? hmem))

theorem keptOffsets_eq (t : Text) :
    keptOffsets t = (unpaired (withoutMark t)).map (markLength t + ·) := by
  -- the offsets of the mark are all dropped, and the others are those of the rest, moved
  have hmark : (List.range (markLength t)).filter
      (fun i => markLength t ≤ i ∧ ¬ IsPaired t i) = [] := by
    refine List.filter_eq_nil_iff.mpr fun i hi => ?_
    have := List.mem_range.mp hi
    simp only [decide_eq_true_eq]
    omega
  rw [keptOffsets, ← markLength_add_length, List.range_add, List.filter_append, hmark,
    List.nil_append, List.filter_map]
  refine congrArg _ (List.filter_congr fun i _ => ?_)
  simp [isPaired_withoutMark]

theorem map_getElem?_keptOffsets (t : Text) :
    (keptOffsets t).map (t[·]?) = (joinLineEnds (withoutMark t)).map some := by
  rw [keptOffsets_eq, List.map_map, ← map_getElem?_unpaired]
  refine List.map_congr_left fun i _ => ?_
  rw [Function.comp_apply, ← drop_markLength, List.getElem?_drop]

theorem count_take_keptOffsets {j i : Nat} (h : (keptOffsets t)[j]? = some i) :
    ((joinLineEnds (withoutMark t)).take j).count newline = (t.take i).count newline := by
  rw [keptOffsets_eq, List.getElem?_map] at h
  obtain ⟨i, hi, rfl⟩ := Option.map_eq_some_iff.mp h
  have hmark : (t.take (markLength t)).count newline = 0 :=
    List.count_eq_zero.mpr fun hmem => not_mem_byteOrderMark.1 (mem_mark_of_mem_take hmem)
  rw [count_take_unpaired _ hi, List.take_add, List.count_append, hmark, drop_markLength,
    Nat.zero_add]

/-- A carriage return stays unless it is that of a paired line end. -/
theorem mem_keptOffsets_of_return (h : t[i]? = some carriageReturn) :
    i ∈ keptOffsets t ↔ ¬ IsPaired t i := by
  have hi : i < t.length := (List.getElem?_eq_some_iff.mp h).1
  simp [keptOffsets, hi, markLength_le_of_return h]

theorem hasPairedLineEnd_withoutMark (t : Text) : hasPairedLineEnd (withoutMark t) = true ↔
    ∃ i, t[i]? = some carriageReturn ∧ i ∉ keptOffsets t := by
  rw [hasPairedLineEnd_iff]
  constructor
  · rintro ⟨i, hi⟩
    rw [isPaired_withoutMark] at hi
    exact ⟨_, hi.1, fun hmem => (mem_keptOffsets_of_return hi.1).mp hmem hi⟩
  · rintro ⟨i, hreturn, hmem⟩
    rw [mem_keptOffsets_of_return hreturn, not_not] at hmem
    refine ⟨i - markLength t, (isPaired_withoutMark t _).mpr ?_⟩
    rwa [Nat.add_sub_cancel' (markLength_le_of_return hreturn)]

/-- The flag of normalised line ends tells whether there were paired ones. -/
theorem normalize_flag_iff (t : Text) : (normalize t).2 &&& Flags.lineEndsNormalized ≠ 0 ↔
    hasPairedLineEnd (withoutMark t) = true := by
  -- the three flags are different bits, so that each can be read for itself
  have hflags : ∀ marked paired changed : Bool,
      (Flags.when marked Flags.hadByteOrderMark ||| Flags.when paired Flags.lineEndsNormalized |||
        Flags.when changed Flags.formNormalized) &&& Flags.lineEndsNormalized ≠ 0 ↔
      paired = true := by
    decide
  rw [← removeByteOrderMark_fst]
  exact hflags (removeByteOrderMark t).2 (hasPairedLineEnd (removeByteOrderMark t).1)
    (normalizeForm (joinLineEnds (removeByteOrderMark t).1)).2

/-- **Normalising keeps lines.** There are as many line feeds as before. Line by line, the first
loses a byte-order mark at its beginning, and each that is ended by a line feed loses one carriage
return at its end. The bytes that are left are those at the offsets that stay, in order, each with
as many line feeds before it as it had; every lone carriage return stays; and the flag is set
exactly if a carriage return was dropped. -/
theorem normalization_keeps_lines (t : Text) :
    let u := (normalizeLineEnds (removeByteOrderMark t).1).1
    u.count newline = t.count newline ∧
    (∀ k, (Text.splitOn newline u)[k]? = (Text.splitOn newline t)[k]?.map fun line =>
      let unmarked := if k = 0 then withoutMark line else line
      if k < t.count newline then withoutReturn unmarked else unmarked) ∧
    (keptOffsets t).map (t[·]?) = u.map some ∧
    (∀ j i, (keptOffsets t)[j]? = some i →
      (u.take j).count newline = (t.take i).count newline) ∧
    (∀ i, t[i]? = some carriageReturn → t[i + 1]? ≠ some newline → i ∈ keptOffsets t) ∧
    ((normalizeLineEnds (removeByteOrderMark t).1).2 = true ↔
      ∃ i, t[i]? = some carriageReturn ∧ i ∉ keptOffsets t) ∧
    ((normalize t).2 &&& Flags.lineEndsNormalized ≠ 0 ↔
      ∃ i, t[i]? = some carriageReturn ∧ i ∉ keptOffsets t) := by
  simp only [normalizeLineEnds, removeByteOrderMark_fst]
  have hcount := count_withoutMark t
  refine ⟨(count_joinLineEnds _).trans hcount, fun k => ?_, map_getElem?_keptOffsets t,
    fun j i h => count_take_keptOffsets h, fun i hreturn hlone => ?_,
    hasPairedLineEnd_withoutMark t,
    (normalize_flag_iff t).trans (hasPairedLineEnd_withoutMark t)⟩
  · rw [getElem?_splitOn_joinLineEnds, getElem?_splitOn_withoutMark, Option.map_map, hcount]
    rfl
  · exact (mem_keptOffsets_of_return hreturn).mpr fun hpair => hlone hpair.2

/-- An ASCII text without line feeds is its own normalisation. -/
theorem normalize_fst_of_ascii (hascii : t.all (· < 0x80) = true) (hfeed : newline ∉ t) :
    (normalize t).1 = t := by
  have hmark : withoutMark t = t := by
    refine if_neg fun ⟨rest, hrest⟩ => ?_
    rw [← hrest] at hascii
    exact absurd (List.all_eq_true.mp hascii 0xEF List.mem_cons_self) (by decide)
  simp only [normalize, normalizeLineEnds, normalizeForm, removeByteOrderMark_fst, hmark,
    joinLineEnds_of_not_mem hfeed, Text.normalForm, if_pos hascii]

/-- A mark before a paired line end, two carriage returns before a line feed, and lone ones. -/
example :
    let t : Text := byteOrderMark ++ "\r\na\r\r\nb\rc\r"
    normalizeLineEnds (removeByteOrderMark t).1 = (("\na\r\nb\rc\r" : Text), true) ∧
      keptOffsets t = [4, 5, 6, 8, 9, 10, 11, 12] := by
  decide

end AdtCompiler.Source
