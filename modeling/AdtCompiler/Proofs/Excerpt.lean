import AdtCompiler.Diagnostic.Report
import AdtCompiler.Proofs.Lines

/-!
# Excerpts are safe and exact

A report shows the line on which a span starts and marks the part of it that the span covers. Spans
come from anywhere: their ends may be out of order or outside of the file, and columns are computed
with 32 bits. Whatever the span, only bytes inside of the file and of its line are read; and a span
in order, inside of the file and on one line is shown as it is.

One kind of file is apart: if all of its 2³² - 1 bytes are one line, the column of its end has come
round to zero. A span that reaches up to there is shown with its line, but marked as if it were
empty.

## Contents

- `Report.markedPart_le`: the part that is marked is within the line
- `Report.excerpt_of_readLine`: an excerpt needs nothing but a line that can be read
- `Report.markedPart_of_column`: the part that is marked, if no column came round
- `Report.excerpt_of_round`: what is shown if the column of the end came round
- `Report.excerpt_safe_exact`: the statement on all spans
- `Report.excerpt_comes_round`: a span whose end came round
-/

namespace AdtCompiler

namespace Report

open Source

/-! ## Spans of any kind -/

/-- Whatever the two positions are, the part that is marked is within the line. -/
theorem markedPart_le (start stop : Position) (length : Nat) :
    (markedPart start stop length).1 ≤ (markedPart start stop length).2 ∧
      (markedPart start stop length).2 ≤ length := by
  simp only [markedPart]
  split <;> omega

section

variable {colours : Bool} {file : SourceFile} {span : Span}

theorem excerpt_of_readLine {line : Text} {part : Nat × Nat}
    (hline : file.readLine (file.position span.start).line = .ok line)
    (hpart : markedPart (file.position span.start) (file.position span.stop) line.length = part) :
    excerpt colours file span = .ok (if line = [] ∧ span.start = span.stop then [] else
      excerptText colours (file.position span.start).line line (line.take part.1)
        ((line.drop part.1).take (part.2 - part.1))) := by
  obtain ⟨hfrom, huntil⟩ :=
    markedPart_le (file.position span.start) (file.position span.stop) line.length
  rw [hpart] at hfrom huntil
  have hbefore : extract line 0 part.1 = .ok (line.take part.1) :=
    extract_of_le (Nat.zero_le _) (by omega)
  have hcovered := extract_of_le hfrom huntil
  have hempty : (line.isEmpty && span.isEmpty) = true ↔ line = [] ∧ span.start = span.stop := by
    simp [Span.isEmpty]
  simp only [excerpt, hline, bind, Except.bind, hpart, hbefore, hcovered, hempty]
  split <;> rfl

theorem excerpt_of_readLine_error {fault : ReadFault}
    (hline : file.readLine (file.position span.start).line = .error fault) :
    excerpt colours file span = .error fault := by
  simp only [excerpt, hline]
  rfl

/-- No span makes an excerpt read outside of the file or of a line. -/
theorem excerpt_ne_outOfRange : excerpt colours file span ≠ .error .outOfRange := by
  intro h
  cases hline : file.readLine (file.position span.start).line with
  | ok line =>
    rw [excerpt_of_readLine hline rfl] at h
    cases h
  | error fault =>
    rw [excerpt_of_readLine_error hline] at h
    cases h
    -- a line is read out of range in no file: long files are refused, others have all lines
    by_cases hsize : file.content.length < UInt32.size
    · obtain ⟨line, hok⟩ := SourceFile.exists_readLine hsize (file.position span.start).line
      rw [hok] at hline
      cases hline
    · rw [SourceFile.readLine] at hline
      split at hline
      · cases hline
      · rw [if_pos (Nat.le_of_not_lt hsize)] at hline
        cases hline

/-! ## Spans on one line -/

/-- The part that is marked lies between the columns, if they are on one line and did not come
round. -/
theorem markedPart_of_column {number : UInt32} {start stop length : Nat} (horder : start ≤ stop)
    (hstop : stop ≤ length) (hround : stop + 1 < UInt32.size) :
    markedPart ⟨number, (start + 1).toUInt32⟩ ⟨number, (stop + 1).toUInt32⟩ length =
      (start, stop) := by
  have hfrom : (start + 1).toUInt32.toNat - 1 = start := by
    rw [UInt32.toNat_ofNat_of_lt' (by omega), Nat.add_sub_cancel]
  have huntil : (stop + 1).toUInt32.toNat - 1 = stop := by
    rw [UInt32.toNat_ofNat_of_lt' hround, Nat.add_sub_cancel]
  simp only [markedPart, hfrom, huntil, if_true, Prod.mk.injEq]
  omega

/-- On a line that is not the whole file, or not of 2³² - 1 bytes, no column comes round. -/
theorem column_lt_of_isLine {t before line tail after : Text}
    (h : IsLine t before (line ++ tail) after) (hsize : t.length < UInt32.size)
    (hround : before.length + line.length + 1 < UInt32.size ∨ newline ∈ t) :
    line.length + 1 < UInt32.size := by
  rcases hround with hround | hmem
  · omega
  · by_contra hlong
    have hlength := congrArg List.length h.split
    simp only [List.length_append] at hlength
    have hbefore : before = [] := List.eq_nil_of_length_eq_zero (by omega)
    have hafter : after = [] := List.eq_nil_of_length_eq_zero (by omega)
    -- the line would be the whole file and hold its line feed
    rw [h.split, hbefore, hafter, List.nil_append, List.append_nil] at hmem
    exact h.plain hmem

/-- A span on one line is shown with this line, the bytes before it and the bytes it covers. -/
theorem excerpt_of_isLine {before head covered tail after : Text}
    (hsize : file.content.length < UInt32.size)
    (hstart : span.start.toNat = before.length + head.length)
    (hstop : span.stop.toNat = before.length + (head ++ covered).length)
    (hround : span.stop.toNat + 1 < UInt32.size ∨ newline ∈ file.content)
    (h : IsLine file.content before (head ++ (covered ++ tail)) after) :
    excerpt colours file span =
      .ok (if head ++ (covered ++ tail) = [] ∧ span.start = span.stop then [] else
        excerptText colours (before.count newline + 1).toUInt32 (head ++ (covered ++ tail)) head
          covered) := by
  have h' : IsLine file.content before ((head ++ covered) ++ tail) after := by
    rwa [List.append_assoc]
  have hfrom := SourceFile.position_of_isLine h hstart hsize
  have huntil := SourceFile.position_of_isLine h' hstop hsize
  have hcolumn := column_lt_of_isLine h' hsize (hstop ▸ hround)
  have hread : file.readLine (file.position span.start).line = .ok (head ++ (covered ++ tail)) := by
    rw [hfrom]
    exact SourceFile.readLine_of_isLine h hsize
  have hpart : markedPart (file.position span.start) (file.position span.stop)
      (head ++ (covered ++ tail)).length = (head.length, (head ++ covered).length) := by
    rw [hfrom, huntil]
    apply markedPart_of_column _ _ hcolumn <;> simp only [List.length_append] <;> omega
  rw [excerpt_of_readLine hread hpart, hfrom, List.take_left, List.drop_left, List.length_append,
    Nat.add_sub_cancel_left, List.take_left]

/-- If the whole file is one line and the column of its end came round to zero, a span up to the end
is marked as if it were empty; an empty one is marked at the beginning of the line. -/
theorem excerpt_of_round (hsize : file.content.length < UInt32.size)
    (horder : span.start.toNat ≤ span.stop.toNat) (hstop : span.stop.toNat ≤ file.content.length)
    (hround : span.stop.toNat + 1 = UInt32.size) (hplain : newline ∉ file.content) :
    excerpt colours file span = .ok (excerptText colours 1 file.content
      (if span.start = span.stop then [] else file.content.take span.start.toNat) []) := by
  have hlength : file.content.length = span.stop.toNat := by omega
  have hfrom := SourceFile.position_of_plain hplain (Nat.le_trans horder hstop) hsize
  have huntil := SourceFile.position_of_plain hplain hstop hsize
  have hread : file.readLine (file.position span.start).line = .ok file.content := by
    rw [hfrom]
    exact SourceFile.readLine_of_plain hplain hsize
  have hne : file.content ≠ [] := by
    intro hnil
    rw [← hlength, hnil] at hround
    exact absurd hround (by decide)
  have hzero : (span.stop.toNat + 1).toUInt32.toNat = 0 := by
    rw [hround]
    rfl
  by_cases hempty : span.start = span.stop
  · -- both columns came round, and the span is taken to stand in column one
    have hpart : markedPart (file.position span.start) (file.position span.stop)
        file.content.length = (0, 0) := by
      rw [hfrom, huntil, hempty]
      simp only [markedPart, hzero, if_true, Prod.mk.injEq]
      omega
    rw [excerpt_of_readLine hread hpart, if_neg (fun h => hne h.1), if_pos hempty, hfrom]
    rfl
  · -- only the column of the end came round, and the span is cut to nothing
    have hlt : span.start.toNat < span.stop.toNat :=
      Nat.lt_of_le_of_ne horder fun h => hempty (UInt32.toNat_inj.mp h)
    have hstart : (span.start.toNat + 1).toUInt32.toNat = span.start.toNat + 1 :=
      UInt32.toNat_ofNat_of_lt' (by omega)
    have hpart : markedPart (file.position span.start) (file.position span.stop)
        file.content.length = (span.start.toNat, span.start.toNat) := by
      rw [hfrom, huntil]
      simp only [markedPart, hstart, hzero, if_true, Prod.mk.injEq]
      omega
    rw [excerpt_of_readLine hread hpart, if_neg (fun h => hne h.1), if_neg hempty, hfrom,
      Nat.sub_self, List.take_zero]

end

/-- Excerpts are safe and exact. For a span with any two ends no bytes are read outside of the file
or of its line, and only a file too long for its offsets is not shown. A span in order, inside of
the file and without a line feed is shown with the line that holds its start, blanks for the bytes
of this line before the span, and carets for just the bytes of the span; nothing is shown of an
empty span on an empty line. The last part is the only exception: a span up to the end of a single
line of 2³² - 1 bytes, whose column came round to zero. -/
theorem excerpt_safe_exact (colours : Bool) (files : FileSet) (span : Span)
    (hid : span.file.toNat < files.size) :
    ∃ file, files.get? span.file = some file ∧
      excerpt colours file span ≠ .error .outOfRange ∧
      (file.content.length < UInt32.size →
        (∃ text, excerpt colours file span = .ok text) ∧
        (span.start ≤ span.stop → span.stop.toNat ≤ file.content.length →
          newline ∉ file.slice span.start.toNat span.stop.toNat →
          span.stop.toNat + 1 < UInt32.size ∨ newline ∈ file.content →
          ∃ before line after, IsLine file.content before line after ∧
            before.length ≤ span.start.toNat ∧
            span.start.toNat ≤ before.length + line.length ∧
            excerpt colours file span = .ok (if line = [] ∧ span.start = span.stop then [] else
              let label := Text.decimal (file.position span.start).line.toNat
              gutter colours label ++ line ++ "\n" ++
                gutter colours (Text.padRight label.length []) ++
                caretPad (file.slice before.length span.start.toNat) ++
                caretStyle.paint colours
                  (underline (file.slice span.start.toNat span.stop.toNat)) ++ "\n")) ∧
        (span.start ≤ span.stop → span.stop.toNat ≤ file.content.length →
          span.stop.toNat + 1 = UInt32.size → newline ∉ file.content →
          excerpt colours file span = .ok (excerptText colours 1 file.content
            (if span.start = span.stop then [] else file.content.take span.start.toNat) []))) := by
  have hget : files.get? span.file = some files.files[span.file.toNat] :=
    Array.getElem?_eq_getElem hid
  generalize files.files[span.file.toNat] = file at hget
  refine ⟨file, hget, excerpt_ne_outOfRange, fun hsize => ⟨?shown, ?exact, ?round⟩⟩
  case shown =>
    obtain ⟨line, hline⟩ := SourceFile.exists_readLine hsize (file.position span.start).line
    exact ⟨_, excerpt_of_readLine hline rfl⟩
  case exact =>
    intro horder hstop hplain hround
    have hle : span.start.toNat ≤ span.stop.toNat := UInt32.le_iff_toNat_le.mp horder
    obtain ⟨before, head, tail, after, hstart, hline⟩ :=
      SourceFile.exists_isLine_around hle hstop hplain
    have hcovered : (file.slice span.start.toNat span.stop.toNat).length =
        span.stop.toNat - span.start.toNat := by
      rw [SourceFile.slice, List.length_take, List.length_drop]
      omega
    have hhead : file.slice before.length span.start.toNat = head := by
      rw [SourceFile.slice, hstart, Nat.add_sub_cancel_left, hline.split, List.append_assoc,
        List.drop_left, List.append_assoc, List.take_left]
    refine ⟨before, _, after, hline, by omega, ?_, ?_⟩
    · rw [List.length_append]
      omega
    · rw [excerpt_of_isLine hsize hstart (by rw [List.length_append]; omega) hround hline, hhead,
        SourceFile.position_of_isLine hline hstart hsize]
      rfl
  case round =>
    intro horder hstop hround hplain
    exact excerpt_of_round hsize (UInt32.le_iff_toNat_le.mp horder) hstop hround hplain

namespace Tabbed

/-- A file whose second line starts with a tab. -/
def file : SourceFile := { id := 0, path := "tabbed", content := "ab\n\tcd e\n", flags := 0 }

def files : FileSet := ⟨#[file]⟩

/-- Two letters behind the tab. -/
def span : Span := ⟨0, 4, 6⟩

/-- A span that ends before it starts, and starts outside of the file. -/
def outside : Span := ⟨0, 0xFFFFFFFF, 1⟩

end Tabbed

/-- Of the second line just the two letters are marked; a span far outside is shown somehow. -/
theorem excerpt_safe_exact_tabbed :
    Tabbed.files.get? 0 = some Tabbed.file ∧
      Tabbed.file.slice 4 6 = "cd" ∧ newline ∉ Tabbed.file.slice 4 6 ∧
      (∃ before line after, IsLine Tabbed.file.content before line after ∧
        before.length ≤ 4 ∧ 4 ≤ before.length + line.length ∧
        excerpt false Tabbed.file Tabbed.span = .ok (
          let label := Text.decimal (Tabbed.file.position 4).line.toNat
          gutter false label ++ line ++ "\n" ++ gutter false (Text.padRight label.length []) ++
            caretPad (Tabbed.file.slice before.length 4) ++
            caretStyle.paint false (underline (Tabbed.file.slice 4 6)) ++ "\n")) ∧
      ∃ text, excerpt true Tabbed.file Tabbed.outside = .ok text := by
  have hget : Tabbed.files.get? 0 = some Tabbed.file := rfl
  have hsize : Tabbed.file.content.length < UInt32.size := by decide
  refine ⟨hget, by decide, by decide, ?inside, ?outside⟩
  case inside =>
    obtain ⟨file, hfile, -, hshown⟩ :=
      excerpt_safe_exact false Tabbed.files Tabbed.span (by decide)
    obtain rfl : Tabbed.file = file := Option.some.inj (hget.symm.trans hfile)
    obtain ⟨before, line, after, hline, hstart, hstop, htext⟩ :=
      (hshown hsize).2.1 (by decide) (by decide) (by decide) (.inr (by decide))
    refine ⟨before, line, after, hline, hstart, hstop, ?_⟩
    rw [htext, if_neg (fun h => absurd h.2 (by decide))]
    rfl
  case outside =>
    obtain ⟨file, hfile, -, hshown⟩ :=
      excerpt_safe_exact true Tabbed.files Tabbed.outside (by decide)
    obtain rfl : Tabbed.file = file := Option.some.inj (hget.symm.trans hfile)
    exact (hshown hsize).1

open SourceFile in
/-- In a line of 2³² - 1 bytes a span over the last two is marked like an empty one: there is one
caret where two bytes are covered. -/
theorem excerpt_comes_round :
    let file := Filled.file 97
    let span : Span := ⟨0, 4294967293, 4294967295⟩
    file.content.length < UInt32.size ∧ span.start ≤ span.stop ∧
      span.stop.toNat ≤ file.content.length ∧ newline ∉ file.content ∧
      file.slice span.start.toNat span.stop.toNat = "aa" ∧
      underline "aa" = "^~" ∧ underline [] = "^" ∧
      excerpt false file span =
        .ok (excerptText false 1 file.content (file.content.take span.start.toNat) []) ∧
      excerpt false file span ≠
        .ok (excerptText false 1 file.content (file.content.take span.start.toNat) "aa") := by
  intro file span
  have hsize : file.content.length < UInt32.size := Filled.length_content_lt 97
  have hstop : span.stop.toNat ≤ file.content.length :=
    Nat.le_of_eq (Filled.length_content 97).symm
  have hplain : newline ∉ file.content := Filled.newline_notMem (by decide)
  have hslice : file.slice span.start.toNat span.stop.toNat = "aa" := by
    have hstart : span.start.toNat = 4294967293 := rfl
    have hend : span.stop.toNat = 4294967295 := rfl
    have hdrop : file.content.drop 4294967293 = List.replicate 2 97 := List.drop_replicate
    rw [SourceFile.slice, hstart, hend, hdrop]
    rfl
  have htext : excerpt false file span =
      .ok (excerptText false 1 file.content (file.content.take span.start.toNat) []) :=
    excerpt_of_round hsize (by decide) hstop (by decide) hplain
  refine ⟨hsize, by decide, hstop, hplain, hslice, by decide, by decide, htext, ?_⟩
  rw [htext]
  intro heq
  -- the two texts differ in the carets alone
  have hcarets : underline [] = underline "aa" :=
    List.append_cancel_left (List.append_cancel_right (Except.ok.inj heq))
  exact absurd hcarets (by decide)

end Report

end AdtCompiler
