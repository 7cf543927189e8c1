import AdtCompiler.Proofs.Position
import AdtCompiler.Proofs.Scanning

/-!
# The tokens of a file tile it

The tokens that a stream hands out cover disjoint parts of the file in order, and between them
there is nothing but blanks and comments. A token has the bytes it covers as its text, and the
line and the column of its first byte as its place.

## Contents

- `Tile`: what holds of one token and the bytes around it
- `Tiled`: tokens and gaps in turn, from an offset up to the end
- `TokenStream.tiles_file`
-/

namespace AdtCompiler

open Token
open Source (newline placeBehind tailLength)

/-! ## One token -/

/-- A token covers the bytes of its text, is no part of a longer token, and stands at the place
of its first byte. -/
structure Tile (file : SourceFile) (table : WordTable) (t : Token) : Prop where
  kind : t.kind ≠ .eof
  file_eq : t.span.file = file.id
  start_lt_stop : t.span.start.toNat < t.span.stop.toNat
  stop_le : t.span.stop.toNat ≤ file.content.length
  text_eq : t.text = file.slice t.span.start.toNat t.span.stop.toNat
  /-- A punctuation mark, a lone `/` or `*`, or a word. -/
  lexeme : Lexeme table t.kind t.text (file.content.drop t.span.stop.toNat)
  /-- Neither the byte before a word nor the byte behind it may stand in a word. -/
  maximal : (∃ b ∈ t.text, isWordByte b = true) →
    (∀ b ∈ (file.content.take t.span.start.toNat).getLast?, isWordByte b = false) ∧
    (∀ b ∈ (file.content.drop t.span.stop.toNat).head?, isWordByte b = false)
  newline_not_mem : newline ∉ t.text
  line_eq : t.line.toNat = (file.content.take t.span.start.toNat).count newline + 1
  column_eq : t.column.toNat = tailLength (file.content.take t.span.start.toNat) + 1

/-- No word goes on across the place where a text is split. -/
def WordBreak (before behind : Text) : Prop :=
  ∀ b ∈ before.getLast?, ∀ c ∈ behind.head?, isWordByte c = true → isWordByte b = false

section TokenBefore

variable {file : SourceFile} {table : WordTable} {kind : TokenKind} {before text rest : Text}

theorem span_tokenBefore (kind : TokenKind) (hcontent : file.content = before ++ (text ++ rest))
    (hsize : file.content.length < UInt32.size) :
    (file.tokenBefore kind text rest).span.start.toNat = before.length ∧
    (file.tokenBefore kind text rest).span.stop.toNat = before.length + text.length := by
  have hlength := congrArg List.length hcontent
  simp only [List.length_append] at hlength
  have hstart : file.content.length - (text ++ rest).length = before.length := by
    rw [List.length_append]
    omega
  have hstop : before.length.toUInt32 + text.length.toUInt32 =
      (before.length + text.length).toUInt32 := by
    simp only [Nat.toUInt32_eq, UInt32.ofNat_add]
  simp only [SourceFile.tokenBefore, make, hstart, hstop]
  exact ⟨UInt32.toNat_ofNat_of_lt' (by omega), UInt32.toNat_ofNat_of_lt' (by omega)⟩

theorem column_tokenBefore (hcontent : file.content = before ++ (text ++ rest))
    (hsize : file.content.length < UInt32.size) :
    (file.tokenBefore kind text rest).column = (placeBehind before).column := by
  obtain ⟨hstart, -⟩ := span_tokenBefore kind hcontent hsize
  have hlength := congrArg List.length hcontent
  have hplace := file.position_eq (file.tokenBefore kind text rest).span.start
    (by rw [hstart, hlength, List.length_append]; omega) hsize
  rw [hstart, hcontent, List.take_left] at hplace
  exact congrArg Position.column hplace

/-- The line of a token is that of its last byte, and it is the line of its first one because
there is no line feed in the token. -/
theorem line_tokenBefore (hcontent : file.content = before ++ (text ++ rest))
    (hsize : file.content.length < UInt32.size) (hne : text ≠ []) (hline : newline ∉ text) :
    (file.tokenBefore kind text rest).line = (placeBehind before).line := by
  obtain ⟨hstart, hstop⟩ := span_tokenBefore kind hcontent hsize
  have hlength := congrArg List.length hcontent
  simp only [List.length_append] at hlength
  have hpos := List.length_pos_iff.mpr hne
  have hlt : (file.tokenBefore kind text rest).span.start <
      (file.tokenBefore kind text rest).span.stop := by
    rw [UInt32.lt_iff_toNat_lt]
    omega
  have hmade : (file.tokenBefore kind text rest).line =
      (file.position ((file.tokenBefore kind text rest).span.stop - 1)).line := by
    change (file.position (if _ < _ then _ else _)).line = _
    exact congrArg (fun offset => (file.position offset).line) (if_pos hlt)
  have hone : (1 : UInt32) ≤ (file.tokenBefore kind text rest).span.stop := by
    rw [UInt32.le_iff_toNat_le, hstop]
    exact Nat.le_trans hpos (Nat.le_add_left _ _)
  have hlast : ((file.tokenBefore kind text rest).span.stop - 1).toNat =
      (before ++ text.dropLast).length := by
    rw [UInt32.toNat_sub_of_le _ _ hone, hstop, List.length_append, List.length_dropLast]
    exact Nat.add_sub_assoc hpos _
  -- what stands before the last byte of the token
  have hsplit : file.content = (before ++ text.dropLast) ++ ([text.getLast hne] ++ rest) := by
    rw [hcontent, List.append_assoc, ← List.append_assoc text.dropLast,
      List.dropLast_concat_getLast hne]
  rw [hmade, file.position_eq _ _ hsize, hlast]
  · rw [hsplit, List.take_left, Source.line_placeBehind_append]
    exact fun h => hline (text.dropLast_sublist.subset h)
  · rw [hlast, hsplit]
    exact (List.prefix_append _ _).length_le

/-- A token in its place is a tile. -/
theorem tile_tokenBefore (hcontent : file.content = before ++ (text ++ rest))
    (hsize : file.content.length < UInt32.size) (hlexeme : Lexeme table kind text rest)
    (hbreak : WordBreak before (text ++ rest)) :
    Tile file table (file.tokenBefore kind text rest) := by
  obtain ⟨hstart, hstop⟩ := span_tokenBefore kind hcontent hsize
  have hlength := congrArg List.length hcontent
  simp only [List.length_append] at hlength
  have hpos := List.length_pos_iff.mpr hlexeme.ne_nil
  have htake : file.content.take before.length = before := by rw [hcontent, List.take_left]
  have hdrop : file.content.drop (before.length + text.length) = rest := by
    rw [hcontent, ← List.append_assoc, ← List.length_append, List.drop_left]
  constructor
  case kind => exact hlexeme.ne_eof
  case file_eq => rfl
  case start_lt_stop => omega
  case stop_le => omega
  case text_eq =>
    rw [hstart, hstop, SourceFile.slice, hcontent, List.drop_left, Nat.add_sub_cancel_left,
      List.take_left]
    rfl
  case lexeme =>
    rw [hstop, hdrop]
    exact hlexeme
  case maximal =>
    rintro ⟨b, hb, hword⟩
    obtain ⟨hall, hend⟩ := hlexeme.word_of_mem hb hword
    rw [hstart, hstop, htake, hdrop]
    refine ⟨fun c hc => ?_, hend⟩
    -- the token begins with a word byte, and no word goes on across its start
    cases text with
    | nil => exact absurd rfl hlexeme.ne_nil
    | cons d text => exact hbreak c hc d rfl (hall d (List.mem_cons_self ..))
  case newline_not_mem => exact hlexeme.newline_not_mem
  case line_eq =>
    have hcount : before.count newline ≤ before.length := List.count_le_length
    rw [line_tokenBefore hcontent hsize hlexeme.ne_nil hlexeme.newline_not_mem, hstart, htake]
    exact UInt32.toNat_ofNat_of_lt' (by omega)
  case column_eq =>
    have htail := Source.tailLength_le before
    rw [column_tokenBefore hcontent hsize, hstart, htake]
    exact UInt32.toNat_ofNat_of_lt' (by omega)

end TokenBefore

/-! ## Words end where tokens end -/

theorem WordBreak.append_gap {before gap text rest : Text} {table : WordTable} {kind : TokenKind}
    (h : WordBreak before (gap ++ (text ++ rest))) (hgap : Gap gap (text ++ rest))
    (hlexeme : Lexeme table kind text rest) : WordBreak (before ++ gap) (text ++ rest) := by
  cases hlast : gap.getLast? with
  | none =>
    rw [List.getLast?_eq_none_iff.mp hlast] at h ⊢
    rwa [List.append_nil]
  | some d =>
    intro b hb c hc _
    -- a token does not begin with a line feed, so no line comment ends right before it
    have hhead : ∃ c ∈ (text ++ rest).head?, c ≠ newline := by
      refine ⟨c, hc, ?_⟩
      rintro rfl
      cases text with
      | nil => exact absurd rfl hlexeme.ne_nil
      | cons e text =>
        cases Option.mem_some.mp hc
        exact hlexeme.newline_not_mem (List.mem_cons_self ..)
    rw [List.getLast?_append, hlast] at hb
    cases Option.mem_some.mp hb
    exact hgap.getLast?_not_word hhead d hlast

theorem WordBreak.append_text {before text rest : Text} {table : WordTable} {kind : TokenKind}
    (hlexeme : Lexeme table kind text rest) : WordBreak (before ++ text) rest := by
  intro b hb c hc hword
  have hmem : b ∈ text := by
    rw [List.getLast?_append, List.getLast?_eq_some_getLast hlexeme.ne_nil] at hb
    cases Option.mem_some.mp hb
    exact List.getLast_mem hlexeme.ne_nil
  -- a word that ends in `b` ends before no word byte
  refine Bool.eq_false_iff.mpr fun hb => ?_
  rw [(hlexeme.word_of_mem hmem hb).2 c hc] at hword
  cases hword

/-! ## All tokens -/

/-- Tokens and gaps in turn from an offset up to the end of a file. -/
def Tiled (file : SourceFile) (table : WordTable) : Nat → List Token → Prop
  | offset, [] => Gap (file.content.drop offset) []
  | offset, t :: tokens =>
    Tile file table t ∧ offset ≤ t.span.start.toNat ∧
    Gap (file.slice offset t.span.start.toNat) (file.content.drop t.span.start.toNat) ∧
    Tiled file table t.span.stop.toNat tokens

/-- What is scanned behind a part of a file is tiled. -/
theorem Scans.tiled {file : SourceFile} {table : WordTable} {t : Text} {tokens : List Token}
    (h : Scans file table t tokens) (hsize : file.content.length < UInt32.size) {before : Text}
    (hcontent : file.content = before ++ t) (hbreak : WordBreak before t) :
    Tiled file table before.length tokens := by
  -- the part before grows by a gap and a token in every step, and words end at its end
  induction h generalizing before with
  | stop hgap =>
    rw [Tiled, hcontent, List.drop_left]
    exact hgap
  | @step gap text rest kind tokens hgap hlexeme h ih =>
    have hcontent' : file.content = (before ++ gap) ++ (text ++ rest) := by
      rw [hcontent, List.append_assoc]
    have hcontent'' : file.content = ((before ++ gap) ++ text) ++ rest := by
      rw [hcontent', List.append_assoc (before ++ gap)]
    obtain ⟨hstart, hstop⟩ := span_tokenBefore kind hcontent' hsize
    refine ⟨tile_tokenBefore hcontent' hsize hlexeme (hbreak.append_gap hgap hlexeme), ?_, ?_, ?_⟩
    · rw [hstart, List.length_append]
      exact Nat.le_add_right _ _
    · rw [hstart, hcontent', List.drop_left]
      rw [SourceFile.slice, hcontent, List.drop_left, List.length_append,
        Nat.add_sub_cancel_left, List.take_left]
      exact hgap
    · rw [hstop, ← List.length_append]
      exact ih hcontent'' (.append_text hlexeme)

namespace Tiled

variable {file : SourceFile} {table : WordTable} {offset : Nat} {tokens : List Token}

theorem tile (h : Tiled file table offset tokens) : ∀ t ∈ tokens, Tile file table t := by
  induction tokens generalizing offset with
  | nil => simp
  | cons t tokens ih =>
    obtain ⟨htile, -, -, hrest⟩ := h
    intro t' ht'
    rcases List.mem_cons.mp ht' with rfl | ht'
    · exact htile
    · exact ih hrest t' ht'

theorem offset_le (h : Tiled file table offset tokens) :
    ∀ t ∈ tokens, offset ≤ t.span.start.toNat := by
  induction tokens generalizing offset with
  | nil => simp
  | cons t tokens ih =>
    obtain ⟨htile, hle, -, hrest⟩ := h
    intro t' ht'
    rcases List.mem_cons.mp ht' with rfl | ht'
    · exact hle
    · have hlt := htile.start_lt_stop
      have hle' := ih hrest t' ht'
      omega

/-- A token ends before the next ones begin. -/
theorem pairwise (h : Tiled file table offset tokens) :
    tokens.Pairwise fun t t' => t.span.stop.toNat ≤ t'.span.start.toNat := by
  induction tokens generalizing offset with
  | nil => exact .nil
  | cons t tokens ih =>
    obtain ⟨-, -, -, hrest⟩ := h
    exact .cons (hrest.offset_le) (ih hrest)

/-- Before every token, and before the end, there is a gap behind the previous token. -/
theorem gap (h : Tiled file table offset tokens) (hsize : file.content.length < UInt32.size)
    (i : Nat) (hi : i ≤ tokens.length) :
    let previous := match i with
      | 0 => offset
      | j + 1 => (tokens[j]?.getD file.endToken).span.stop.toNat
    let start := (tokens[i]?.getD file.endToken).span.start.toNat
    Gap (file.slice previous start) (file.content.drop start) := by
  induction tokens generalizing offset i with
  | nil =>
    cases Nat.le_zero.mp hi
    have hend : file.endToken.span.start.toNat = file.content.length :=
      UInt32.toNat_ofNat_of_lt' hsize
    have hslice : file.slice offset file.content.length = file.content.drop offset := by
      rw [SourceFile.slice, ← List.length_drop, List.take_length]
    simp only [List.getElem?_nil, Option.getD_none, hend, hslice, List.drop_length]
    exact h
  | cons t tokens ih =>
    obtain ⟨-, -, hgap, hrest⟩ := h
    cases i with
    | zero => exact hgap
    | succ i =>
      -- the previous token is the head, or the previous one of the tail
      have hi' : i ≤ tokens.length := by simpa using hi
      cases i with
      | zero => simpa using ih hrest 0 hi'
      | succ i => simpa using ih hrest (i + 1) hi'

end Tiled

/-! ## Streams -/

/-- Where the token before a call of `next` ends, or the beginning of the file. -/
def TokenStream.stopBefore (s : TokenStream) : Nat → Nat
  | 0 => 0
  | i + 1 => (s.nth i).span.stop.toNat

/-- A stream hands out `count` tokens that tile its file, and then the end token. -/
structure Tiling (file : SourceFile) (table : WordTable) (count : Nat) : Prop where
  /-- The end is reached within one more call than there are bytes. -/
  count_le : count ≤ file.content.length
  end_kind : ((TokenStream.start file table).nth count).kind = .eof
  end_start : ((TokenStream.start file table).nth count).span.start.toNat = file.content.length
  /-- Behind the end token there is the same end token for ever. -/
  end_forever : ∀ i, count ≤ i →
    (TokenStream.start file table).nth i = (TokenStream.start file table).nth count
  tile : ∀ i < count, Tile file table ((TokenStream.start file table).nth i)
  ordered : ∀ i j, i < j → j < count →
    ((TokenStream.start file table).nth i).span.stop.toNat ≤
      ((TokenStream.start file table).nth j).span.start.toNat
  /-- There are gaps before the first token, between neighbours and behind the last token. -/
  gap : ∀ i ≤ count, Gap
    (file.slice ((TokenStream.start file table).stopBefore i)
      ((TokenStream.start file table).nth i).span.start.toNat)
    (file.content.drop ((TokenStream.start file table).nth i).span.start.toNat)
  /-- Draining the stream takes these tokens and the end token. -/
  lexed_eq : file.lexed table = (List.range (count + 1)).map (TokenStream.start file table).nth

/-- **The tokens of a file tile it.** -/
theorem TokenStream.tiles_file (file : SourceFile) (table : WordTable)
    (hsize : file.content.length < UInt32.size) : ∃ count, Tiling file table count := by
  obtain ⟨tokens, hscan⟩ := exists_scans file table file.content
  have htiled : Tiled file table 0 tokens :=
    @Scans.tiled _ _ _ _ hscan hsize [] rfl (by simp [WordBreak])
  refine ⟨tokens.length, ?_⟩
  constructor
  case count_le => exact hscan.length_le
  case end_kind => rw [hscan.nth_of_le (Nat.le_refl _), SourceFile.kind_endToken]
  case end_start =>
    rw [hscan.nth_of_le (Nat.le_refl _)]
    exact UInt32.toNat_ofNat_of_lt' hsize
  case end_forever =>
    intro i hi
    rw [hscan.nth_of_le hi, hscan.nth_of_le (Nat.le_refl _)]
  case tile =>
    intro i hi
    rw [hscan.nth_of_lt hi]
    exact htiled.tile _ (List.getElem_mem hi)
  case ordered =>
    intro i j hij hj
    have hi : i < tokens.length := by omega
    rw [hscan.nth_of_lt hi, hscan.nth_of_lt hj]
    exact List.pairwise_iff_getElem.mp htiled.pairwise i j hi hj hij
  case gap =>
    intro i hi
    have hgap := htiled.gap hsize i hi
    have hnth : ∀ i, (start file table).nth i = tokens[i]?.getD file.endToken :=
      fun i => nth_eq hscan i _ _
    cases i with
    | zero => simpa only [stopBefore, hnth] using hgap
    | succ i => simpa only [stopBefore, hnth] using hgap
  case lexed_eq => exact hscan.lexed_eq_map_nth

/-- A file with comments of both kinds, one of them not closed, and a lone `/`. -/
def commented : SourceFile :=
  { id := 0, path := "b.adt", content := "a/b // c\n/*/*/=/*", flags := 0 }

/-- The tokens `a`, `/`, `b` and `=` tile it. -/
theorem TokenStream.tiles_commented :
    commented.content.length < UInt32.size ∧ ∃ count, Tiling commented {} count :=
  ⟨by decide, TokenStream.tiles_file commented {} (by decide)⟩

end AdtCompiler
