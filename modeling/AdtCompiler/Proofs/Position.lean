import AdtCompiler.Source.File

/-!
# Lines and columns of offsets

`SourceFile.position` searches the index of line feeds by halving. In a file of fewer than 2³²
bytes the answer is the plain one: the line of an offset is one more than the number of line feeds
before it, and its column is one more than the number of bytes behind the last of them.

## Contents

- the search finds the border between the entries below an offset and the others
- the index of a text splits where the text is split
- `SourceFile.position_eq`
-/

namespace AdtCompiler

namespace Source

/-! ## The search -/

/-- The search finds the border of an index whose entries below `offset` stand before the
others. -/
theorem countBelow_eq (index : Array UInt32) (offset : UInt32) (border lo hi : Nat)
    (hbelow : ∀ i entry, index[i]? = some entry → (entry < offset ↔ i < border))
    (hlo : lo ≤ border) (hhi : border ≤ hi) (hsize : hi ≤ index.size) :
    countBelow index offset lo hi = border := by
  fun_induction countBelow index offset lo hi with
  | case1 lo hi h mid hnone =>
    -- the middle of a non-empty range is an index
    have hmid : index.size ≤ mid := Array.getElem?_eq_none_iff.mp hnone
    omega
  | case2 lo hi h mid entry hentry hlt ih =>
    have hmid : mid < border := (hbelow mid entry hentry).mp hlt
    exact ih hmid hhi hsize
  | case3 lo hi h mid entry hentry hge ih =>
    have hmid : ¬ mid < border := fun h => hge ((hbelow mid entry hentry).mpr h)
    exact ih hlo (by omega) (by omega)
  | case4 lo hi h => omega

/-! ## The index of a text -/

theorem newlineOffsets_append (start : Nat) (s t : Text) :
    newlineOffsets start (s ++ t) =
      newlineOffsets start s ++ newlineOffsets (start + s.length) t := by
  induction s generalizing start with
  | nil => rfl
  | cons b s ih =>
    have hstart : start + 1 + s.length = start + (s.length + 1) := by omega
    simp only [newlineOffsets, List.cons_append, List.length_cons, ih, hstart]
    split <;> rfl

theorem length_newlineOffsets (start : Nat) (t : Text) :
    (newlineOffsets start t).length = t.count newline := by
  induction t generalizing start with
  | nil => rfl
  | cons b t ih =>
    by_cases h : b = newline <;> simp [newlineOffsets, h, ih]

/-- The entries are offsets within the text. -/
theorem mem_newlineOffsets {start : Nat} {t : Text} {entry : UInt32}
    (h : entry ∈ newlineOffsets start t) (hsize : start + t.length ≤ UInt32.size) :
    start ≤ entry.toNat ∧ entry.toNat < start + t.length := by
  induction t generalizing start with
  | nil => cases h
  | cons b t ih =>
    simp only [List.length_cons] at hsize ⊢
    simp only [newlineOffsets] at h
    have hrest (h : entry ∈ newlineOffsets (start + 1) t) := ih h (by omega)
    split at h
    · rcases List.mem_cons.mp h with rfl | h
      · -- an offset below the word size is stored as it is
        have hstart : start.toUInt32.toNat = start := UInt32.toNat_ofNat_of_lt' (by omega)
        omega
      · have := hrest h
        omega
    · have := hrest h
      omega

/-- The entry behind those of a text is the offset of the line feed that follows it. -/
theorem getElem?_newlineOffsets (u v : Text) :
    (newlineOffsets 0 (u ++ newline :: v))[u.count newline]? = some u.length.toUInt32 := by
  rw [newlineOffsets_append, ← length_newlineOffsets 0 u]
  simp [newlineOffsets]

/-- Of the index of a text, the entries of the part before an offset are those below it. -/
theorem newlineOffsets_below (s t : Text) (offset : UInt32) (hoffset : offset.toNat = s.length)
    (hsize : (s ++ t).length ≤ UInt32.size) (i : Nat) (entry : UInt32)
    (h : (newlineOffsets 0 (s ++ t))[i]? = some entry) :
    entry < offset ↔ i < s.count newline := by
  rw [List.length_append] at hsize
  rw [newlineOffsets_append, ← length_newlineOffsets 0 s, UInt32.lt_iff_toNat_lt, hoffset] at *
  by_cases hi : i < (newlineOffsets 0 s).length
  · rw [List.getElem?_append_left hi] at h
    have := mem_newlineOffsets (List.mem_of_getElem? h) (by omega)
    exact iff_of_true (by omega) hi
  · rw [List.getElem?_append_right (Nat.le_of_not_lt hi)] at h
    have := mem_newlineOffsets (List.mem_of_getElem? h) (by omega)
    exact iff_of_false (by omega) hi

/-! ## Places -/

/-- The number of bytes behind the last line feed of a text. -/
def tailLength (t : Text) : Nat := (t.reverse.takeWhile (· != newline)).length

theorem tailLength_append {s t : Text} (h : newline ∉ t) :
    tailLength (s ++ t) = tailLength s + t.length := by
  have hall : ∀ b ∈ t.reverse, (b != newline) = true := by
    intro b hb
    simp only [List.mem_reverse] at hb
    exact bne_iff_ne.mpr fun heq => h (heq ▸ hb)
  rw [tailLength, List.reverse_append, List.takeWhile_append_of_pos hall, List.length_append,
    List.length_reverse, Nat.add_comm, tailLength]

@[simp] theorem tailLength_snoc_newline (s : Text) : tailLength (s ++ [newline]) = 0 := by
  simp [tailLength]

theorem tailLength_le (t : Text) : tailLength t ≤ t.length := by
  have := (List.takeWhile_sublist (p := (· != newline)) (l := t.reverse)).length_le
  rwa [List.length_reverse] at this

/-- The place just behind a text. -/
def placeBehind (before : Text) : Position where
  line := (before.count newline + 1).toUInt32
  column := (tailLength before + 1).toUInt32

/-- Bytes other than line feeds do not leave the line. -/
theorem line_placeBehind_append {s t : Text} (h : newline ∉ t) :
    (placeBehind (s ++ t)).line = (placeBehind s).line := by
  simp only [placeBehind, List.count_append, List.count_eq_zero.mpr h, Nat.add_zero]

/-- A text with a line feed has a last one. -/
theorem exists_last_newline {t : Text} (h : newline ∈ t) :
    ∃ u v, t = u ++ newline :: v ∧ newline ∉ v := by
  -- the last line feed is the first one from the other end
  obtain ⟨v, u, heq, hv⟩ := List.eq_append_cons_of_mem (List.mem_reverse.mpr h)
  refine ⟨u.reverse, v.reverse, ?_, by simpa using hv⟩
  rw [← List.reverse_reverse t, heq, List.reverse_append, List.reverse_cons, List.append_assoc]
  rfl

/-- The search through the index of a text finds the place behind a part of it. -/
theorem positionIn_eq (s t : Text) (offset : UInt32) (hoffset : offset.toNat = s.length)
    (hsize : (s ++ t).length ≤ UInt32.size) :
    positionIn (newlineOffsets 0 (s ++ t)).toArray offset = placeBehind s := by
  have hcount : countBelow (newlineOffsets 0 (s ++ t)).toArray offset 0
      (newlineOffsets 0 (s ++ t)).toArray.size = s.count newline := by
    apply countBelow_eq _ _ _ _ _ _ (Nat.zero_le _) _ (Nat.le_refl _)
    · intro i entry h
      exact newlineOffsets_below s t offset hoffset hsize i entry (by simpa using h)
    · rw [List.size_toArray, length_newlineOffsets, List.count_append]
      exact Nat.le_add_right _ _
  have hoffset' : offset = s.length.toUInt32 := by
    rw [← hoffset]
    exact (UInt32.ofNat_toNat).symm
  simp only [positionIn, hcount]
  by_cases h : newline ∈ s
  · -- the entry before the border is the offset of the last line feed
    obtain ⟨u, v, rfl, hv⟩ := exists_last_newline h
    have hcount' : (u ++ newline :: v).count newline = u.count newline + 1 := by
      simp [List.count_eq_zero.mpr hv]
    have hlast : (newlineOffsets 0 (u ++ newline :: v ++ t)).toArray[u.count newline]? =
        some u.length.toUInt32 := by
      rw [List.append_assoc, List.getElem?_toArray]
      exact getElem?_newlineOffsets u (v ++ t)
    have htail : tailLength (u ++ newline :: v) = v.length := by
      rw [← List.singleton_append, ← List.append_assoc, tailLength_append hv]
      simp
    have hcolumn : offset - (u.length.toUInt32 + 1) + 1 = (v.length + 1).toUInt32 := by
      have hlength : (u ++ newline :: v).length = u.length + 1 + v.length := by simp; omega
      rw [hoffset', hlength]
      simp only [Nat.toUInt32_eq, UInt32.ofNat_add]
      grind
    simp only [hcount', Nat.add_sub_cancel, hlast, placeBehind, htail, hcolumn]
    rfl
  · -- on the first line the column counts from the beginning of the text
    have hplace : placeBehind s = ⟨1, offset + 1⟩ := by
      have htail : tailLength s = s.length := by
        simpa [tailLength] using tailLength_append (s := []) h
      rw [placeBehind, htail, List.count_eq_zero.mpr h, hoffset']
      simp only [Nat.toUInt32_eq, UInt32.ofNat_add]
      rfl
    rw [List.count_eq_zero.mpr h, hplace]
    split <;> rfl

end Source

/-- The place of an offset is the one behind the bytes before it. -/
theorem SourceFile.position_eq (f : SourceFile) (offset : UInt32)
    (hoffset : offset.toNat ≤ f.content.length) (hsize : f.content.length < UInt32.size) :
    f.position offset = Source.placeBehind (f.content.take offset.toNat) := by
  have hlength : offset.toNat = (f.content.take offset.toNat).length := by
    rw [List.length_take, Nat.min_eq_left hoffset]
  have hsplit := List.take_append_drop offset.toNat f.content
  have h := Source.positionIn_eq (f.content.take offset.toNat) (f.content.drop offset.toNat) offset
    hlength (by rw [hsplit]; omega)
  rwa [hsplit, ← f.lineIndex_eq] at h

end AdtCompiler
