import AdtCompiler.Proofs.Path
import AdtCompiler.Proofs.Position

/-!
# Lines and positions agree

A position is found by searching the index of line feeds, and a line is cut out between two entries
of the index. Both are described here by the lines of the text itself: a line is a stretch without
line feeds that cannot be made longer. The line that a position names is the one that holds the
offset, the lines put together again are the text, and offsets in order have positions in order.

Numbers have 32 bits. They count from one, so in a text of 2³² - 1 bytes the last offset may lie on
a line, or in a column, whose number has come round to zero.

## Contents

- `Source.IsLine`: a line of a text with what stands before and behind it
- `SourceFile.readLine_of_isLine`: the line behind a number of line feeds
- `SourceFile.mapM_readLine`: all lines, one after the other
- `SourceFile.position_readLine_consistent`: what positions and lines have to do with each other
- `SourceFile.position_comes_round`: the last place of the longest files
-/

namespace AdtCompiler

/-! ## Order of positions -/

namespace Position

/-- The order in which places are read. -/
def Precedes (p q : Position) : Prop :=
  p.line < q.line ∨ p.line = q.line ∧ p.column < q.column

/-- The place with line and column counted from zero. -/
def fromZero (p : Position) : Position := ⟨p.line - 1, p.column - 1⟩

end Position

namespace Source

theorem toUInt32_ne {n : Nat} {w : UInt32} (h : n < UInt32.size) (hne : n ≠ w.toNat) :
    n.toUInt32 ≠ w := by
  rintro rfl
  exact hne (UInt32.toNat_ofNat_of_lt' h).symm

/-- A number counted from one gives the number counted from zero back, even if it came round. -/
theorem succ_toUInt32_sub_one (n : Nat) : (n + 1).toUInt32 - 1 = n.toUInt32 := by
  rw [Nat.toUInt32_eq, UInt32.ofNat_add]
  exact UInt32.add_sub_cancel _ _

theorem toUInt32_lt_toUInt32 {m n : Nat} (h : m < n) (hn : n < UInt32.size) :
    m.toUInt32 < n.toUInt32 := by
  rw [UInt32.lt_iff_toNat_lt, UInt32.toNat_ofNat_of_lt' (by omega), UInt32.toNat_ofNat_of_lt' hn]
  exact h

theorem fromZero_placeBehind (before : Text) : (placeBehind before).fromZero =
    ⟨(before.count newline).toUInt32, (tailLength before).toUInt32⟩ := by
  simp only [Position.fromZero, placeBehind, succ_toUInt32_sub_one]

theorem precedes_of_lt {m n i j : Nat} (h : m < n ∨ m = n ∧ i < j) (hn : n < UInt32.size)
    (hj : j < UInt32.size) :
    Position.Precedes ⟨m.toUInt32, i.toUInt32⟩ ⟨n.toUInt32, j.toUInt32⟩ := by
  rcases h with hline | ⟨rfl, hcolumn⟩
  · exact .inl (toUInt32_lt_toUInt32 hline hn)
  · exact .inr ⟨rfl, toUInt32_lt_toUInt32 hcolumn hj⟩

/-- More bytes are on a later line or further on the same. -/
theorem count_lt_or_tailLength_lt (s : Text) {t : Text} (ht : t ≠ []) :
    s.count newline < (s ++ t).count newline ∨
      s.count newline = (s ++ t).count newline ∧ tailLength s < tailLength (s ++ t) := by
  by_cases h : newline ∈ t
  · have := List.count_pos_iff.mpr h
    rw [List.count_append]
    exact .inl (by omega)
  · have := List.length_pos_iff.mpr ht
    rw [List.count_append, List.count_eq_zero.mpr h, tailLength_append h]
    exact .inr ⟨rfl, by omega⟩

/-! ## Lines of a text -/

/-- A line of a text, and what stands before and behind it. It starts at the beginning or behind a
line feed, holds none, and reaches up to the next one or to the end. -/
structure IsLine (t before line after : Text) : Prop where
  split : t = before ++ line ++ after
  starts : tailLength before = 0
  plain : newline ∉ line
  ends : ∀ b ∈ after.head?, b = newline

theorem eq_nil_or_concat_of_tailLength {t : Text} (h : tailLength t = 0) :
    t = [] ∨ ∃ u, t = u ++ [newline] := by
  rcases List.eq_nil_or_concat' t with rfl | ⟨u, b, rfl⟩
  · exact .inl rfl
  · refine .inr ⟨u, ?_⟩
    by_contra hne
    -- another byte at the end would stand behind the last line feed
    have hb : newline ∉ [b] := fun hmem => hne (by rw [List.mem_singleton.mp hmem])
    rw [tailLength_append hb, List.length_singleton] at h
    omega

/-- A stretch without line feeds is within a line. -/
theorem exists_isLine (s r : Text) {middle : Text} (hmiddle : newline ∉ middle) :
    ∃ before head tail after, s = before ++ head ∧
      IsLine (s ++ (middle ++ r)) before (head ++ (middle ++ tail)) after := by
  -- the line starts behind the last line feed before the stretch
  obtain ⟨before, head, rfl, hstarts, hhead⟩ :
      ∃ before head, s = before ++ head ∧ tailLength before = 0 ∧ newline ∉ head := by
    by_cases h : newline ∈ s
    · obtain ⟨u, v, rfl, hv⟩ := exists_last_newline h
      exact ⟨u ++ [newline], v, by simp, tailLength_snoc_newline u, hv⟩
    · exact ⟨[], s, rfl, rfl, h⟩
  -- and goes on up to the first one behind it
  have htail : newline ∉ r.takeWhile (· != newline) := by
    intro hmem
    simpa using List.all_eq_true.mp List.all_takeWhile newline hmem
  refine ⟨before, head, r.takeWhile (· != newline), r.dropWhile (· != newline), rfl, ?_, hstarts,
    ?_, ?_⟩
  · simp only [List.append_assoc, List.takeWhile_append_dropWhile]
  · simp only [List.mem_append, not_or]
    exact ⟨hhead, hmiddle, htail⟩
  · intro b hb
    have := List.head?_dropWhile_not (· != newline) r
    rw [Option.mem_def.mp hb] at this
    simpa using this

/-- As many line feeds as a text has, and any smaller number, stand before some offset of it. -/
theorem exists_take_count {t : Text} {i : Nat} (h : i ≤ t.count newline) :
    ∃ n ≤ t.length, (t.take n).count newline = i := by
  induction t generalizing i with
  | nil => exact ⟨0, Nat.le_refl 0, (Nat.le_zero.mp h).symm⟩
  | cons b t ih =>
    by_cases hb : b = newline
    · cases i with
      | zero => exact ⟨0, Nat.zero_le _, rfl⟩
      | succ i =>
        obtain ⟨n, hn, hcount⟩ := ih (i := i) (by simpa [hb] using h)
        exact ⟨n + 1, by simpa using hn, by simp [hb, hcount]⟩
    · obtain ⟨n, hn, hcount⟩ := ih (i := i) (by simpa [hb] using h)
      exact ⟨n + 1, by simpa using hn, by simp [hb, hcount]⟩

namespace IsLine

variable {t before line after : Text}

/-- A line is all that stands between its beginning and the next line feed. -/
theorem eq_takeWhile (h : IsLine t before line after) :
    (t.drop before.length).takeWhile (· != newline) = line := by
  have hline : ∀ b ∈ line, (b != newline) = true := by
    intro b hb
    exact bne_iff_ne.mpr fun heq => h.plain (heq ▸ hb)
  have hafter : after.takeWhile (· != newline) = [] := by
    cases after with
    | nil => rfl
    | cons b rest => simp [h.ends b rfl]
  rw [h.split, List.append_assoc, List.drop_left, List.takeWhile_append_of_pos hline, hafter,
    List.append_nil]

theorem length_le (h : IsLine t before line after) : before.length + line.length ≤ t.length := by
  rw [h.split, List.length_append, List.length_append]
  exact Nat.le_add_right _ _

theorem take_eq {head tail : Text} (h : IsLine t before (head ++ tail) after) :
    t.take (before.length + head.length) = before ++ head := by
  rw [h.split, ← List.length_append, ← List.append_assoc, List.append_assoc, List.take_left]

/-- Within a line no line feed is passed. -/
theorem count_append {head tail : Text} (h : IsLine t before (head ++ tail) after) :
    (before ++ head).count newline = before.count newline := by
  have hhead : newline ∉ head := fun hmem => h.plain (List.mem_append_left tail hmem)
  rw [List.count_append, List.count_eq_zero.mpr hhead, Nat.add_zero]

theorem tailLength_append {head tail : Text} (h : IsLine t before (head ++ tail) after) :
    tailLength (before ++ head) = head.length := by
  have hhead : newline ∉ head := fun hmem => h.plain (List.mem_append_left tail hmem)
  rw [Source.tailLength_append hhead, h.starts, Nat.zero_add]

end IsLine

/-! ## Reading bytes -/

theorem extract_of_le {t : Text} {start stop : Nat} (h : start ≤ stop) (hstop : stop ≤ t.length) :
    extract t start stop = .ok ((t.drop start).take (stop - start)) :=
  if_pos ⟨h, hstop⟩

/-- A part of a text is read between its two ends. -/
theorem extract_append (u v w : Text) :
    extract (u ++ v ++ w) u.length (u.length + v.length) = .ok v := by
  rw [extract_of_le (Nat.le_add_right _ _) (by simp), Nat.add_sub_cancel_left, List.append_assoc,
    List.drop_left, List.take_left]

end Source

namespace SourceFile

open Source

variable {f : SourceFile}

/-! ## The index of line feeds -/

theorem getElem?_lineIndex {u v : Text} (h : f.content = u ++ newline :: v) :
    f.lineIndex[u.count newline]? = some u.length.toUInt32 := by
  rw [f.lineIndex_eq, h, List.getElem?_toArray]
  exact getElem?_newlineOffsets u v

theorem getElem?_lineIndex_eq_none {i : Nat} (h : f.content.count newline ≤ i) :
    f.lineIndex[i]? = none := by
  rw [f.lineIndex_eq, List.getElem?_toArray, List.getElem?_eq_none_iff, length_newlineOffsets]
  exact h

/-! ## Reading lines -/

section

variable {before line after : Text}

theorem lineStart?_of_isLine (h : IsLine f.content before line after)
    (hsize : f.content.length < UInt32.size) (hcount : before.count newline + 1 < UInt32.size) :
    f.lineStart? (before.count newline + 1).toUInt32 = some before.length := by
  rcases eq_nil_or_concat_of_tailLength h.starts with rfl | ⟨u, rfl⟩
  · rfl
  · -- the entry two below the number is that of the line feed before the line
    have hlength := h.length_le
    simp only [List.length_append, List.length_singleton] at hlength ⊢
    have hcons : (u ++ [newline]).count newline = u.count newline + 1 := by simp
    rw [hcons] at hcount ⊢
    have hone : (u.count newline + 1 + 1).toUInt32 ≠ 1 := toUInt32_ne hcount (by simp)
    have htwo : (u.count newline + 1 + 1).toUInt32 - 2 = (u.count newline).toUInt32 := by
      rw [← succ_toUInt32_sub_one (u.count newline), ← succ_toUInt32_sub_one (u.count newline + 1)]
      grind
    have hentry : f.lineIndex[u.count newline]? = some u.length.toUInt32 :=
      getElem?_lineIndex (by rw [h.split]; simp only [List.append_assoc]; rfl)
    have hbehind : (u.length.toUInt32 + 1).toNat = u.length + 1 := by
      rw [← UInt32.toNat_ofNat_of_lt' (n := u.length + 1) (by omega), Nat.toUInt32_eq,
        UInt32.ofNat_add]
      rfl
    rw [lineStart?, if_neg hone, htwo, UInt32.toNat_ofNat_of_lt' (by omega), hentry,
      Option.map_some, hbehind]

theorem lineStop_of_isLine (h : IsLine f.content before line after)
    (hsize : f.content.length < UInt32.size) (hcount : before.count newline + 1 < UInt32.size) :
    f.lineStop (before.count newline + 1).toUInt32 = before.length + line.length := by
  have hline : (before ++ line).count newline = before.count newline := by
    rw [List.count_append, List.count_eq_zero.mpr h.plain, Nat.add_zero]
  rw [lineStop, succ_toUInt32_sub_one, UInt32.toNat_ofNat_of_lt' (by omega), ← hline,
    ← List.length_append]
  cases after with
  | nil =>
    have hcontent : f.content = before ++ line := by rw [h.split, List.append_nil]
    rw [getElem?_lineIndex_eq_none (hcontent ▸ Nat.le_refl _), hcontent]
  | cons b rest =>
    obtain rfl := h.ends b rfl
    have hlength := h.length_le
    rw [getElem?_lineIndex h.split]
    exact UInt32.toNat_ofNat_of_lt' (by rw [List.length_append]; omega)

/-- The number of a line is one more than the number of line feeds before it. -/
theorem readLine_of_isLine (h : IsLine f.content before line after)
    (hsize : f.content.length < UInt32.size) :
    f.readLine (before.count newline + 1).toUInt32 = .ok line := by
  have hlength := h.length_le
  have hbefore : before.count newline ≤ before.length := List.count_le_length
  by_cases hcount : before.count newline + 1 < UInt32.size
  · have hzero : (before.count newline + 1).toUInt32 ≠ 0 := toUInt32_ne hcount (by simp)
    rw [readLine, if_neg hzero, if_neg (by omega), lineStart?_of_isLine h hsize hcount]
    simp only [lineStop_of_isLine h hsize hcount, Nat.min_eq_left hlength]
    rw [if_neg (by omega)]
    conv_lhs => rw [h.split]
    exact extract_append before line after
  · -- the number has come round to zero, and nothing is left for the line
    have hall : before.count newline + 1 = UInt32.size := by omega
    have hline : line = [] := List.eq_nil_of_length_eq_zero (by omega)
    rw [hall, hline]
    rfl

end

theorem readLine_beyond {number : UInt32} (hsize : f.content.length < UInt32.size)
    (h : f.content.count newline + 1 < number.toNat) : f.readLine number = .ok [] := by
  have hzero : number ≠ 0 := by rintro rfl; simp at h
  have hone : number ≠ 1 := by rintro rfl; simp at h
  have htwo : (number - 2).toNat = number.toNat - 2 :=
    UInt32.toNat_sub_of_le _ _ (UInt32.le_iff_toNat_le.mpr (by simp; omega))
  have hstart : f.lineStart? number = none := by
    rw [lineStart?, if_neg hone, htwo, getElem?_lineIndex_eq_none (by omega), Option.map_none]
  rw [readLine, if_neg hzero, if_neg (by omega), hstart]

/-- The lines of the rest of a text, read one after the other, are its pieces between line
feeds. -/
theorem mapM_readLine (hsize : f.content.length < UInt32.size) {u t : Text}
    (hu : tailLength u = 0) (h : f.content = u ++ t) :
    (List.range' (u.count newline) (t.count newline + 1)).mapM
      (fun i => f.readLine (i + 1).toUInt32) = .ok (t.splitOn newline) := by
  -- by the number of line feeds in the rest; each step reads one line and passes a line feed
  induction hk : t.count newline generalizing u t with
  | zero =>
    have ht : newline ∉ t := List.count_eq_zero.mp hk
    have hline : IsLine f.content u t [] := ⟨by rw [h, List.append_nil], hu, ht, by simp⟩
    rw [List.range'_succ, List.mapM_cons, readLine_of_isLine hline hsize,
      Text.splitOn_of_not_mem ht]
    rfl
  | succ k ih =>
    have hmem : newline ∈ t := List.count_pos_iff.mp (by omega)
    obtain ⟨line, rest, rfl, hplain⟩ := List.eq_append_cons_of_mem hmem
    have hline : IsLine f.content u line (newline :: rest) :=
      ⟨by rw [h, List.append_assoc], hu, hplain, by simp⟩
    have hpassed : (u ++ line ++ [newline]).count newline = u.count newline + 1 := by
      simp [List.count_eq_zero.mpr hplain]
    have hrest : rest.count newline = k := by
      simpa [List.count_eq_zero.mpr hplain] using hk
    have hmore := ih (tailLength_snoc_newline (u ++ line)) (by simp [h]) hrest
    rw [hpassed] at hmore
    rw [List.range'_succ, List.mapM_cons, readLine_of_isLine hline hsize, hmore,
      Text.splitOn_append_sep, Text.splitOn_of_not_mem hplain]
    rfl

/-! ## Positions and lines -/

/-- The line that holds a stretch of the file. -/
theorem exists_isLine_around {a b : Nat} (hab : a ≤ b) (hb : b ≤ f.content.length)
    (hplain : newline ∉ f.slice a b) :
    ∃ before head tail after, a = before.length + head.length ∧
      IsLine f.content before (head ++ (f.slice a b ++ tail)) after := by
  obtain ⟨before, head, tail, after, htake, hline⟩ :=
    exists_isLine (f.content.take a) (f.content.drop b) hplain
  have hlength := congrArg List.length htake
  rw [List.length_take, Nat.min_eq_left (by omega), List.length_append] at hlength
  have hdrop : f.slice a b ++ f.content.drop b = f.content.drop a := by
    have := List.take_append_drop (b - a) (f.content.drop a)
    rwa [List.drop_drop, Nat.add_sub_cancel' hab] at this
  rw [hdrop, List.take_append_drop] at hline
  exact ⟨before, head, tail, after, hlength, hline⟩

/-- The line that holds an offset, cut there. -/
theorem exists_isLine_at {n : Nat} (h : n ≤ f.content.length) :
    ∃ before head tail after, n = before.length + head.length ∧
      IsLine f.content before (head ++ tail) after := by
  have hnil : f.slice n n = [] := by rw [slice, Nat.sub_self, List.take_zero]
  obtain ⟨before, head, tail, after, hlength, hline⟩ :=
    exists_isLine_around (Nat.le_refl n) h (by rw [hnil]; exact List.not_mem_nil)
  rw [hnil, List.nil_append] at hline
  exact ⟨before, head, tail, after, hlength, hline⟩

/-- In a file that offsets can count, every number of a line is answered. -/
theorem exists_readLine (hsize : f.content.length < UInt32.size) (number : UInt32) :
    ∃ line, f.readLine number = .ok line := by
  by_cases hzero : number = 0
  · exact ⟨[], if_pos hzero⟩
  by_cases hbeyond : f.content.count newline + 1 < number.toNat
  · exact ⟨[], readLine_beyond hsize hbeyond⟩
  have hpos : number.toNat ≠ 0 := fun h => hzero (UInt32.toNat_inj.mp h)
  obtain ⟨n, hn, hcount⟩ := exists_take_count (t := f.content) (i := number.toNat - 1) (by omega)
  obtain ⟨before, head, tail, after, rfl, hline⟩ := exists_isLine_at hn
  rw [hline.take_eq, hline.count_append] at hcount
  have hnumber : (before.count newline + 1).toUInt32 = number := by
    rw [hcount, Nat.sub_add_cancel (Nat.pos_of_ne_zero hpos)]
    exact UInt32.ofNat_toNat
  exact ⟨head ++ tail, hnumber ▸ readLine_of_isLine hline hsize⟩

section

variable {offset : UInt32}

theorem position_of_isLine {before head tail after : Text}
    (h : IsLine f.content before (head ++ tail) after)
    (hoffset : offset.toNat = before.length + head.length)
    (hsize : f.content.length < UInt32.size) :
    f.position offset =
      ⟨(before.count newline + 1).toUInt32, (head.length + 1).toUInt32⟩ := by
  have hlength := h.length_le
  rw [List.length_append] at hlength
  rw [f.position_eq offset (by omega) hsize, hoffset, h.take_eq, placeBehind, h.count_append,
    h.tailLength_append]

/-- A text without line feeds is one line, wherever it is cut. -/
theorem isLine_whole {t : Text} (hplain : newline ∉ t) (n : Nat) :
    IsLine t [] (t.take n ++ t.drop n) [] := by
  rw [List.take_append_drop]
  exact ⟨by simp, rfl, hplain, by simp⟩

/-- Where the whole file is one line, a column is an offset plus one. -/
theorem position_of_plain (hplain : newline ∉ f.content) (hoffset : offset.toNat ≤ f.content.length)
    (hsize : f.content.length < UInt32.size) :
    f.position offset = ⟨1, (offset.toNat + 1).toUInt32⟩ := by
  have htake : (f.content.take offset.toNat).length = offset.toNat := by
    rw [List.length_take, Nat.min_eq_left hoffset]
  rw [position_of_isLine (isLine_whole hplain offset.toNat) (by simp [htake]) hsize, htake]
  rfl

theorem readLine_of_plain (hplain : newline ∉ f.content) (hsize : f.content.length < UInt32.size) :
    f.readLine 1 = .ok f.content := by
  have hread := readLine_of_isLine (isLine_whole hplain 0) hsize
  rwa [List.take_append_drop] at hread

theorem tailLength_take_lt (hsize : f.content.length < UInt32.size) (n : Nat) :
    tailLength (f.content.take n) < UInt32.size := by
  have := tailLength_le (f.content.take n)
  have := List.length_take_le' n f.content
  omega

theorem toNat_column_sub_one (hoffset : offset.toNat ≤ f.content.length)
    (hsize : f.content.length < UInt32.size) :
    ((f.position offset).column - 1).toNat = tailLength (f.content.take offset.toNat) := by
  rw [f.position_eq offset hoffset hsize, placeBehind, succ_toUInt32_sub_one]
  exact UInt32.toNat_ofNat_of_lt' (tailLength_take_lt hsize _)

/-- The position of an offset names the line that the offset is on. -/
theorem readLine_position (hoffset : offset.toNat ≤ f.content.length)
    (hsize : f.content.length < UInt32.size) :
    ∃ run, f.readLine (f.position offset).line = .ok run ∧
      run = (f.content.drop (offset.toNat - tailLength (f.content.take offset.toNat))).takeWhile
        (· != newline) ∧
      tailLength (f.content.take offset.toNat) ≤ run.length := by
  obtain ⟨before, head, tail, after, hlength, hline⟩ := exists_isLine_at hoffset
  have htail : tailLength (f.content.take offset.toNat) = head.length := by
    rw [hlength, hline.take_eq, hline.tailLength_append]
  rw [htail, position_of_isLine hline hlength hsize]
  refine ⟨head ++ tail, readLine_of_isLine hline hsize, ?_, ?_⟩
  · rw [hlength, Nat.add_sub_cancel, hline.eq_takeWhile]
  · rw [List.length_append]
    exact Nat.le_add_right _ _

end

/-- Of two offsets in order, the bytes before the second one go on behind those before the
first. -/
theorem count_take_lt_or_tailLength_take_lt {a b : Nat} (h : a < b) (hb : b ≤ f.content.length) :
    (f.content.take a).count newline < (f.content.take b).count newline ∨
      (f.content.take a).count newline = (f.content.take b).count newline ∧
        tailLength (f.content.take a) < tailLength (f.content.take b) := by
  have hmore : (f.content.take b).drop a ≠ [] := by
    apply List.ne_nil_of_length_pos
    rw [List.length_drop, List.length_take, Nat.min_eq_left hb]
    omega
  have hsplit : f.content.take a ++ (f.content.take b).drop a = f.content.take b := by
    have := List.take_append_drop a (f.content.take b)
    rwa [List.take_take, Nat.min_eq_left (Nat.le_of_lt h)] at this
  have := count_lt_or_tailLength_lt (f.content.take a) hmore
  rwa [hsplit] at this

theorem position_precedes {a b : UInt32} (h : a < b) (hb : b.toNat ≤ f.content.length)
    (hsize : f.content.length < UInt32.size) :
    (f.position a).fromZero.Precedes (f.position b).fromZero ∧
      ((f.position b).line ≠ 0 → (f.position b).column ≠ 0 →
        (f.position a).Precedes (f.position b)) := by
  have hlt : a.toNat < b.toNat := UInt32.lt_iff_toNat_lt.mp h
  have horder := count_take_lt_or_tailLength_take_lt hlt hb
  have htail := tailLength_take_lt hsize b.toNat
  have hcount : (f.content.take b.toNat).count newline < UInt32.size := by
    have := List.count_le_length (a := newline) (l := f.content.take b.toNat)
    have := List.length_take_le' b.toNat f.content
    omega
  -- a number that has not come round to zero is below the word size
  have hround {n : Nat} (hn : n < UInt32.size) (hne : (n + 1).toUInt32 ≠ 0) :
      n + 1 < UInt32.size := by
    by_contra hge
    have heq : n + 1 = UInt32.size := by omega
    exact hne (by rw [heq]; rfl)
  rw [f.position_eq a (by omega) hsize, f.position_eq b hb hsize]
  constructor
  · rw [fromZero_placeBehind, fromZero_placeBehind]
    exact precedes_of_lt horder hcount htail
  · intro hline hcolumn
    exact precedes_of_lt (by omega) (hround hcount hline) (hround htail hcolumn)

/-- Positions and lines are consistent: the position of an offset counts the line feeds before it
and the bytes behind the last of them, its line is the stretch without line feeds around the
offset, all lines joined are the text, and no other number names a line. Offsets in order have
positions in order; only a number that came round to zero at offset 2³² - 1 breaks the order, and
counted from zero not even that. -/
theorem position_readLine_consistent (f : SourceFile) (hsize : f.content.length < UInt32.size) :
    (∀ offset : UInt32, offset.toNat ≤ f.content.length →
      (f.position offset).line =
          ((f.content.take offset.toNat).count newline + 1).toUInt32 ∧
        ((f.position offset).column - 1).toNat = tailLength (f.content.take offset.toNat) ∧
        (offset.toNat + 1 < UInt32.size →
          (f.position offset).line.toNat = (f.content.take offset.toNat).count newline + 1 ∧
            (f.position offset).column.toNat = tailLength (f.content.take offset.toNat) + 1) ∧
        ∃ run, f.readLine (f.position offset).line = .ok run ∧
          run = (f.content.drop
            (offset.toNat - ((f.position offset).column - 1).toNat)).takeWhile (· != newline) ∧
          ((f.position offset).column - 1).toNat ≤ run.length) ∧
    (∃ lines, (List.range (f.content.count newline + 1)).mapM
        (fun i => f.readLine (i + 1).toUInt32) = .ok lines ∧
      Text.join [newline] lines = f.content) ∧
    (∀ number : UInt32, number = 0 ∨ f.content.count newline + 1 < number.toNat →
      f.readLine number = .ok []) ∧
    ∀ a b : UInt32, a < b → b.toNat ≤ f.content.length →
      (f.position a).fromZero.Precedes (f.position b).fromZero ∧
        ((f.position b).line ≠ 0 → (f.position b).column ≠ 0 →
          (f.position a).Precedes (f.position b)) := by
  refine ⟨?places, ?joined, ?others, ?order⟩
  case places =>
    intro offset hoffset
    rw [toNat_column_sub_one hoffset hsize]
    refine ⟨?_, rfl, ?_, readLine_position hoffset hsize⟩
    · rw [f.position_eq offset hoffset hsize, placeBehind]
    · intro hround
      have hcount := List.count_le_length (a := newline) (l := f.content.take offset.toNat)
      have htail := tailLength_le (f.content.take offset.toNat)
      rw [List.length_take, Nat.min_eq_left hoffset] at hcount htail
      rw [f.position_eq offset hoffset hsize, placeBehind]
      exact ⟨UInt32.toNat_ofNat_of_lt' (by omega), UInt32.toNat_ofNat_of_lt' (by omega)⟩
  case joined =>
    refine ⟨f.content.splitOn newline, ?_, ?_⟩
    · rw [List.range_eq_range']
      exact mapM_readLine hsize (u := []) rfl rfl
    · rw [Text.join_eq_intercalate, Text.splitOn_eq]
      exact List.intercalate_splitOn newline
  case others =>
    rintro number (rfl | hbeyond)
    · rfl
    · exact readLine_beyond hsize hbeyond
  case order =>
    intro a b h hb
    exact position_precedes h hb hsize

namespace ThreeLines

/-- Three lines, of which the second is empty and the third is not ended. -/
def file : SourceFile := { id := 0, path := "three", content := "a\n\nbc", flags := 0 }

theorem length_content : file.content.length < UInt32.size := by decide

end ThreeLines

/-- Of three lines the second line feed ends the second line, and the last byte is in column two of
the third. -/
theorem position_readLine_consistent_three :
    ThreeLines.file.content.length < UInt32.size ∧
      (ThreeLines.file.position 2).line.toNat = 2 ∧ (ThreeLines.file.position 4).line.toNat = 3 ∧
      (ThreeLines.file.position 4).column.toNat = 2 ∧
      (∃ run, ThreeLines.file.readLine (ThreeLines.file.position 4).line = .ok run ∧
        run = "bc") ∧
      ThreeLines.file.readLine 4 = .ok [] ∧
      (ThreeLines.file.position 2).Precedes (ThreeLines.file.position 4) := by
  obtain ⟨hplaces, -, hothers, horder⟩ :=
    position_readLine_consistent ThreeLines.file ThreeLines.length_content
  obtain ⟨-, -, htwo, -⟩ := hplaces 2 (by decide)
  obtain ⟨-, hcolumn, hfour, run, hread, hrun, -⟩ := hplaces 4 (by decide)
  have hline : (ThreeLines.file.position 4).line.toNat = 3 := (hfour (by decide)).1
  have hcol : (ThreeLines.file.position 4).column.toNat = 2 := (hfour (by decide)).2
  refine ⟨ThreeLines.length_content, (htwo (by decide)).1, hline, hcol, ⟨run, hread, ?_⟩,
    hothers 4 (.inr (by decide)), (horder 2 4 (by decide) (by decide)).2 ?_ ?_⟩
  · rw [hrun, hcolumn]
    decide
  · intro h
    rw [h] at hline
    exact absurd hline (by decide)
  · intro h
    rw [h] at hcol
    exact absurd hcol (by decide)

namespace Filled

/-- As many bytes as offsets can count, all of them the same. -/
def file (b : UInt8) : SourceFile :=
  { id := 0, path := "filled", content := List.replicate 4294967295 b, flags := 0 }

theorem length_content (b : UInt8) : (file b).content.length = 4294967295 := List.length_replicate

theorem length_content_lt (b : UInt8) : (file b).content.length < UInt32.size := by
  rw [length_content]
  decide

theorem newline_notMem {b : UInt8} (h : b ≠ newline) : newline ∉ (file b).content :=
  fun hmem => h (List.eq_of_mem_replicate hmem).symm

theorem take_all (b : UInt8) :
    (file b).content.take (4294967295 : UInt32).toNat = (file b).content :=
  List.take_of_length_le (Nat.le_of_eq (length_content b))

end Filled

/-- The numbers of the last place come round in a file of 2³² - 1 bytes: the column if no byte is a
line feed, the line if all bytes are, and then the first place does not precede the last. -/
theorem position_comes_round :
    (Filled.file 97).content.length < UInt32.size ∧
      (4294967295 : UInt32).toNat ≤ (Filled.file 97).content.length ∧
      tailLength ((Filled.file 97).content.take (4294967295 : UInt32).toNat) + 1 = 4294967296 ∧
      (Filled.file 97).position 4294967295 = ⟨1, 0⟩ ∧
      (Filled.file 97).position 0 = ⟨1, 1⟩ ∧
      ¬ ((Filled.file 97).position 0).Precedes ((Filled.file 97).position 4294967295) ∧
      (Filled.file newline).content.length < UInt32.size ∧
      (4294967295 : UInt32).toNat ≤ (Filled.file newline).content.length ∧
      ((Filled.file newline).content.take (4294967295 : UInt32).toNat).count newline + 1 =
        4294967296 ∧
      (Filled.file newline).position 4294967295 = ⟨0, 1⟩ ∧
      (Filled.file newline).position 0 = ⟨1, 1⟩ ∧
      ¬ ((Filled.file newline).position 0).Precedes
          ((Filled.file newline).position 4294967295) := by
  have hstart (b : UInt8) : (Filled.file b).position 0 = ⟨1, 1⟩ :=
    (Filled.file b).position_eq 0 (Nat.zero_le _) (Filled.length_content_lt b)
  have hplain : newline ∉ (Filled.file 97).content := Filled.newline_notMem (by decide)
  have htail : tailLength (Filled.file 97).content = 4294967295 := by
    rw [← List.nil_append (Filled.file 97).content, tailLength_append hplain,
      Filled.length_content]
    rfl
  have hcolumn : (Filled.file 97).position 4294967295 = ⟨1, 0⟩ :=
    position_of_plain hplain (Nat.le_of_eq (Filled.length_content 97).symm)
      (Filled.length_content_lt 97)
  have hcount : (Filled.file newline).content.count newline = 4294967295 :=
    List.count_replicate_self
  -- the last byte is a line feed, so nothing stands behind it
  have hnone : tailLength (Filled.file newline).content = 0 := by
    have hlast : (Filled.file newline).content =
        List.replicate 4294967294 newline ++ [newline] := List.replicate_succ'
    rw [hlast, tailLength_snoc_newline]
  have hline : (Filled.file newline).position 4294967295 = ⟨0, 1⟩ := by
    rw [(Filled.file newline).position_eq 4294967295
      (Nat.le_of_eq (Filled.length_content newline).symm) (Filled.length_content_lt newline),
      Filled.take_all, placeBehind, hnone, hcount]
    rfl
  refine ⟨Filled.length_content_lt 97, Nat.le_of_eq (Filled.length_content 97).symm, ?_, hcolumn,
    hstart 97, ?_, Filled.length_content_lt newline,
    Nat.le_of_eq (Filled.length_content newline).symm, ?_, hline, hstart newline, ?_⟩
  · rw [Filled.take_all]
    omega
  · rw [hcolumn, hstart, Position.Precedes]
    decide
  · rw [Filled.take_all]
    omega
  · rw [hline, hstart, Position.Precedes]
    decide

end SourceFile

end AdtCompiler
