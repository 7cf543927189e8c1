import AdtCompiler.Proofs.Lexeme

/-!
# Scanning is a walk over the bytes

The scanner holds what is left of a file, and a cursor an offset of 32 bits. Here tokens are scanned
once more with a cursor that looks at bytes and takes them one by one, and both ways give the same
tokens with the same spans, in every file that a cursor can walk over.

A cursor can look at two bytes from any place but the very last offset, where the second offset
comes round to zero. A walk looks at two bytes only before a byte that is there, so it never fails.

## Contents

- `Cursor.At`: what is left of the file at a cursor
- `Cursor.skipTrivia`, `Cursor.scanWord`, `Cursor.scan`: scanning with a cursor
- `Cursor.scan_eq`: a step of the walk and a step of the scanner
- `SourceFile.tokens?_eq_walk`: the tokens of a file are those of the walk
-/

namespace AdtCompiler

open Token (Scanner Lexeme isBlank slash star isWordByte punctuation? Trivia)
open Source (newline)

namespace Cursor

/-! ## What is left at a cursor -/

/-- A cursor in a file that offsets can count, with what is left of the file behind it. -/
structure At (c : Cursor) (file : SourceFile) (rest : Text) : Prop where
  file_eq : c.file = file
  size : file.content.length < UInt32.size
  offset_le : c.offset.toNat ≤ file.content.length
  drop_eq : file.content.drop c.offset.toNat = rest

variable {c c' : Cursor} {file : SourceFile} {rest t text : Text} {b : UInt8}

theorem at_of_start? (h : start? file = some c) : c.At file file.content := by
  unfold start? at h
  split at h
  case isTrue hsize =>
    cases h
    exact ⟨rfl, hsize, Nat.zero_le _, rfl⟩
  case isFalse => cases h

theorem At.toNat_limit (h : c.At file rest) : c.limit.toNat = file.content.length := by
  rw [limit, h.file_eq]
  exact UInt32.toNat_ofNat_of_lt' h.size

theorem At.length_eq (h : c.At file rest) : c.offset.toNat + rest.length = file.content.length := by
  have := h.offset_le
  rw [← h.drop_eq, List.length_drop]
  omega

/-- What is left of the file decides where the cursor is. -/
theorem At.offset_eq (h : c.At file rest) :
    c.offset = (file.content.length - rest.length).toUInt32 := by
  rw [← h.length_eq, Nat.add_sub_cancel]
  exact UInt32.ofNat_toNat.symm

theorem At.atEnd_eq (h : c.At file rest) : c.atEnd = rest.isEmpty := by
  have hlength := h.length_eq
  rw [atEnd, Bool.eq_iff_iff, decide_eq_true_iff, UInt32.le_iff_toNat_le, h.toNat_limit,
    List.isEmpty_iff_length_eq_zero]
  omega

theorem At.not_atEnd (h : c.At file (b :: t)) : ¬ c.atEnd = true := by
  simp [h.atEnd_eq]

theorem At.getElem? (h : c.At file rest) (i : Nat) :
    c.file.content[c.offset.toNat + i]? = rest[i]? := by
  rw [← h.drop_eq, List.getElem?_drop, h.file_eq]

theorem At.peek_eq (h : c.At file (b :: t)) : c.peek = b := by
  have hbyte : c.file.content[c.offset.toNat]? = some b := h.getElem? 0
  simp [peek, h.atEnd_eq, hbyte]

theorem toNat_succ_of_lt {n limit : UInt32} (h : n < limit) : (n + 1).toNat = n.toNat + 1 := by
  have hlimit := limit.toNat_lt
  have hlt := UInt32.lt_iff_toNat_lt.mp h
  rw [UInt32.toNat_add]
  exact Nat.mod_eq_of_lt (by simp only [UInt32.reduceToNat]; omega)

theorem offset_lt_limit (h : ¬ c.atEnd = true) : c.offset < c.limit := by
  rwa [atEnd, decide_eq_true_iff, UInt32.not_le] at h

theorem At.toNat_succ (h : c.At file (b :: t)) : (c.offset + 1).toNat = c.offset.toNat + 1 :=
  toNat_succ_of_lt (offset_lt_limit h.not_atEnd)

theorem At.bump (h : c.At file (b :: t)) : c.bump.2.At file t := by
  have hlength := h.length_eq
  rw [Cursor.bump, if_neg h.not_atEnd]
  refine ⟨h.file_eq, h.size, ?_, ?_⟩
  · change (c.offset + 1).toNat ≤ _
    rw [h.toNat_succ, ← hlength, List.length_cons]
    omega
  · change file.content.drop (c.offset + 1).toNat = t
    rw [h.toNat_succ, ← List.drop_drop, h.drop_eq, List.drop_succ_cons, List.drop_zero]

/-- Before a byte that is there, looking at two bytes has an answer. -/
theorem At.peekTwo_eq (h : c.At file (b :: t)) : c.peekTwo = some (t.head?.map (b, ·)) := by
  have hlength := h.length_eq
  have hfirst : c.file.content[c.offset.toNat]? = some b := h.getElem? 0
  have hsecond : c.file.content[(c.offset + 1).toNat]? = t.head? := by
    rw [h.toNat_succ, h.getElem? 1, List.head?_eq_getElem?]
    rfl
  have hbound : c.limit ≤ c.offset + 1 ↔ t = [] := by
    rw [UInt32.le_iff_toNat_le, h.toNat_limit, h.toNat_succ, ← List.length_eq_zero_iff]
    rw [List.length_cons] at hlength
    omega
  cases t with
  | nil => simp [peekTwo, hbound]
  | cons d t =>
    simp only [peekTwo, hbound, hfirst, hsecond, reduceCtorEq, if_false]
    rfl

/-- Behind a text the offset has grown by its length. -/
theorem At.offset_append (h : c.At file (text ++ rest)) (h' : c'.At file rest) :
    c'.offset = c.offset + text.length.toUInt32 := by
  have hlength := h.length_eq
  have hlength' := h'.length_eq
  rw [List.length_append] at hlength
  have hsum : c'.offset.toNat = c.offset.toNat + text.length := by omega
  rw [← UInt32.ofNat_toNat (x := c'.offset), hsum, UInt32.ofNat_add, UInt32.ofNat_toNat]

/-- The bytes between two places of a walk. -/
theorem At.slice_eq (h : c.At file (text ++ rest)) (h' : c'.At file rest) :
    c.file.slice c.offset.toNat c'.offset.toNat = text := by
  have hlength := h.length_eq
  have hlength' := h'.length_eq
  rw [List.length_append] at hlength
  have hsum : c'.offset.toNat - c.offset.toNat = text.length := by omega
  rw [SourceFile.slice, h.file_eq, h.drop_eq, hsum, List.take_left]

/-! ## Walking -/

/-- The number of bytes before the limit. -/
def left (c : Cursor) : Nat := c.limit.toNat - c.offset.toNat

/-- A byte that is taken is not left. -/
theorem left_bump_lt (h : ¬ c.atEnd = true) : c.bump.2.left < c.left := by
  have hlt := offset_lt_limit h
  have hnat := UInt32.lt_iff_toNat_lt.mp hlt
  rw [Cursor.bump, if_neg h]
  change c.limit.toNat - (c.offset + 1).toNat < c.limit.toNat - c.offset.toNat
  rw [toNat_succ_of_lt hlt]
  omega

theorem left_bump_le (c : Cursor) : c.bump.2.left ≤ c.left := by
  by_cases h : c.atEnd = true
  · have hsame : c.bump.2 = c := by rw [Cursor.bump, if_pos h]
    exact Nat.le_of_eq (congrArg left hsame)
  · exact Nat.le_of_lt (left_bump_lt h)

theorem left_bump_bump_lt (h : ¬ c.atEnd = true) : c.bump.2.bump.2.left < c.left :=
  Nat.lt_of_le_of_lt (left_bump_le _) (left_bump_lt h)

/-- Skips blanks and comments byte by byte. -/
def skipTrivia (mode : Trivia) (c : Cursor) : Option Cursor :=
  if c.atEnd then some c
  else
    match mode with
    | .blank =>
      if isBlank c.peek then skipTrivia .blank c.bump.2
      else if c.peek = slash then
        match c.peekTwo with
        | none => none
        | some none => some c
        | some (some (_, b)) =>
          if b = slash then skipTrivia .line c.bump.2.bump.2
          else if b = star then skipTrivia .block c.bump.2.bump.2
          else some c
      else some c
    | .line => skipTrivia (if c.peek = newline then .blank else .line) c.bump.2
    | .block =>
      match c.peekTwo with
      | none => none
      | some none => skipTrivia .block c.bump.2
      | some (some (a, b)) =>
        if a = star ∧ b = slash then skipTrivia .blank c.bump.2.bump.2
        else skipTrivia .block c.bump.2
termination_by c.left
decreasing_by all_goals first | exact left_bump_lt ‹_› | exact left_bump_bump_lt ‹_›

/-- Takes bytes as long as they may stand in a word. -/
def scanWord (c : Cursor) : Cursor :=
  if c.atEnd then c
  else if isWordByte c.peek then scanWord c.bump.2
  else c
termination_by c.left
decreasing_by exact left_bump_lt ‹_›

/-- The token between two places of a walk. -/
def tokenTo (c : Cursor) (kind : TokenKind) (text : Text) (behind : Cursor) : Token :=
  let span := behind.spanFrom c.offset
  Token.make c.file kind text span.start span.stop

/-- The next token and the place behind it. -/
def scan (table : WordTable) (c : Cursor) : Option (Token × Cursor) :=
  (c.skipTrivia .blank).map fun c =>
    if c.atEnd then (c.tokenTo .eof Token.eofText c, c)
    else
      match punctuation? c.peek with
      | some kind => (c.tokenTo kind [c.peek] c.bump.2, c.bump.2)
      | none =>
        if c.peek = slash ∨ c.peek = star then (c.tokenTo .unknown [c.peek] c.bump.2, c.bump.2)
        else
          let behind := c.scanWord
          let word := c.file.slice c.offset.toNat behind.offset.toNat
          (c.tokenTo (table.classify word) word behind, behind)

/-- The tokens before the end token, at most as many as the fuel allows, and the end token. -/
def tokens (table : WordTable) (c : Cursor) : (fuel : Nat) → Option (List Token × Token)
  | 0 => (c.scan table).map fun step => ([], step.1)
  | fuel + 1 =>
    (c.scan table).bind fun (token, c) =>
      if token.kind = .eof then some ([], token)
      else (c.tokens table fuel).map fun (rest, eof) => (token :: rest, eof)

/-! ## A walk and a scanner -/

variable {mode : Trivia}

theorem skipTrivia_of_nil (h : c.At file []) : c.skipTrivia mode = some c := by
  rw [skipTrivia.eq_def, if_pos (by simp [h.atEnd_eq])]

theorem skipTrivia_blank (h : c.At file (b :: t)) :
    c.skipTrivia .blank =
      if isBlank b then c.bump.2.skipTrivia .blank
      else if b = slash then
        match t.head? with
        | none => some c
        | some d =>
          if d = slash then c.bump.2.bump.2.skipTrivia .line
          else if d = star then c.bump.2.bump.2.skipTrivia .block
          else some c
      else some c := by
  rw [skipTrivia.eq_def, if_neg h.not_atEnd]
  simp only [h.peek_eq, h.peekTwo_eq]
  cases t <;> rfl

theorem skipTrivia_line (h : c.At file (b :: t)) :
    c.skipTrivia .line = c.bump.2.skipTrivia (if b = newline then .blank else .line) := by
  rw [skipTrivia.eq_def, if_neg h.not_atEnd]
  simp only [h.peek_eq]

theorem skipTrivia_block (h : c.At file (b :: t)) :
    c.skipTrivia .block =
      if b = star ∧ t.head? = some slash then c.bump.2.bump.2.skipTrivia .blank
      else c.bump.2.skipTrivia .block := by
  rw [skipTrivia.eq_def, if_neg h.not_atEnd]
  simp only [h.peekTwo_eq]
  cases t <;> simp

/-- Skipping with a cursor never fails, and it ends where the text that is skipped ends. -/
theorem exists_skipTrivia (mode : Trivia) (h : c.At file rest) :
    ∃ c', c.skipTrivia mode = some c' ∧ c'.At file (Token.skipTrivia mode rest) := by
  -- the cases are those of the scanner, and the cursor takes the bytes that it drops
  fun_induction Token.skipTrivia mode rest generalizing c with
  | case1 mode => exact ⟨c, skipTrivia_of_nil h, h⟩
  | case2 b t hb ih =>
    rw [skipTrivia_blank h, if_pos hb]
    exact ih h.bump
  | case3 hb =>
    rw [skipTrivia_blank h, if_neg hb, if_pos rfl]
    exact ⟨c, rfl, h⟩
  | case4 u hb ih =>
    rw [skipTrivia_blank h, if_neg hb, if_pos rfl]
    exact ih h.bump.bump
  | case5 u hb hc ih =>
    rw [skipTrivia_blank h, if_neg hb, if_pos rfl]
    exact ih h.bump.bump
  | case6 d u hslash hstar hb =>
    rw [skipTrivia_blank h, if_neg hb, if_pos rfl]
    simp only [List.head?_cons, hslash, hstar, if_false]
    exact ⟨c, rfl, h⟩
  | case7 b t hb hslash =>
    rw [skipTrivia_blank h, if_neg hb, if_neg hslash]
    exact ⟨c, rfl, h⟩
  | case8 t ih =>
    rw [skipTrivia_line h]
    exact ih h.bump
  | case9 b t hb ih =>
    have hline : b ≠ newline := hb
    rw [skipTrivia_line h, if_neg hline]
    exact ih h.bump
  | case10 b =>
    -- the last byte closes nothing, and behind it there is the end
    rw [skipTrivia_block h, if_neg (by simp)]
    exact ⟨c.bump.2, skipTrivia_of_nil h.bump, h.bump⟩
  | case11 b d u hclosed ih =>
    rw [skipTrivia_block h, if_pos ⟨hclosed.1, congrArg some hclosed.2⟩]
    exact ih h.bump.bump
  | case12 b d u hopen ih =>
    rw [skipTrivia_block h, if_neg (by simpa using hopen)]
    exact ih h.bump

/-- The bytes of a word are taken, and no more. -/
theorem at_scanWord (h : c.At file (text ++ rest)) (hword : ∀ b ∈ text, isWordByte b = true)
    (hend : ∀ b ∈ rest.head?, isWordByte b = false) : c.scanWord.At file rest := by
  induction text generalizing c with
  | nil =>
    cases rest with
    | nil =>
      rw [scanWord, if_pos (by simp [h.atEnd_eq])]
      exact h
    | cons b t =>
      rw [scanWord, if_neg h.not_atEnd, h.peek_eq, if_neg (by simp [hend b rfl])]
      exact h
  | cons b t ih =>
    rw [scanWord, if_neg h.not_atEnd, h.peek_eq, if_pos (hword b List.mem_cons_self)]
    exact ih h.bump fun d hd => hword d (List.mem_cons_of_mem b hd)

/-- Before a token the walk gives this token and ends behind it. -/
theorem exists_scan_of_lexeme {d : Cursor} {table : WordTable} {kind : TokenKind}
    (hskip : c.skipTrivia .blank = some d) (h : d.At file (text ++ rest))
    (hlexeme : Lexeme table kind text rest) :
    ∃ c', c.scan table = some (d.tokenTo kind text c', c') ∧ c'.At file rest := by
  rw [scan, hskip, Option.map_some]
  cases hlexeme with
  | mark rest hmark =>
    simp only [h.not_atEnd, h.peek_eq, hmark]
    exact ⟨_, rfl, h.bump⟩
  | lone hlone _ =>
    simp only [h.not_atEnd, h.peek_eq, Token.punctuation?_eq_none (.inr hlone), hlone, if_true]
    exact ⟨_, rfl, h.bump⟩
  | word hne hword hend =>
    obtain ⟨b, t, rfl⟩ := List.exists_cons_of_ne_nil hne
    obtain ⟨-, hslash, hstar, hmark⟩ := Token.isWordByte_iff.mp (hword b List.mem_cons_self)
    have hbehind := at_scanWord h hword hend
    have hlone : ¬ (b = slash ∨ b = star) := not_or.mpr ⟨hslash, hstar⟩
    simp only [At.not_atEnd h, At.peek_eq h, hmark, hlone, h.slice_eq hbehind, if_false]
    exact ⟨_, rfl, hbehind⟩

/-- A token of the scanner is the one between two places of a walk. -/
theorem next_eq_of_lexeme {s : Scanner} {kind : TokenKind}
    (hlexeme : Lexeme s.table kind text rest)
    (hrest : Token.skipTrivia .blank s.rest = text ++ rest)
    (h : c.At s.file (text ++ rest)) (h' : c'.At s.file rest) :
    s.next = (c.tokenTo kind text c', { s with rest }) := by
  have heq := hlexeme.lexeme_eq
  obtain ⟨b, t, rfl⟩ := List.exists_cons_of_ne_nil hlexeme.ne_nil
  have hstart : s.offsetOf (b :: t ++ rest) = c.offset := h.offset_eq.symm
  simp only [Scanner.next, hrest, heq, hstart, List.drop_left, tokenTo, spanFrom,
    h.offset_append h', h.file_eq]

/-- At the end of a file the scanner gives the end token. -/
theorem next_eq_of_end {s : Scanner} (hrest : Token.skipTrivia .blank s.rest = [])
    (h : c.At s.file []) : s.next = (c.tokenTo .eof Token.eofText c, { s with rest := [] }) := by
  simp only [Scanner.next, hrest, Token.lexeme, tokenTo, spanFrom, h.offset_eq, h.file_eq]
  rfl

/-- A step of the walk gives the token of the scanner and ends at its rest. -/
theorem scan_eq {s : Scanner} (h : c.At s.file s.rest) :
    ∃ c', c.scan s.table = some (s.next.1, c') ∧ c'.At s.file s.next.2.rest := by
  obtain ⟨d, hskip, hd⟩ := exists_skipTrivia .blank h
  by_cases hnil : Token.skipTrivia .blank s.rest = []
  · rw [hnil] at hd
    rw [next_eq_of_end hnil hd, scan, hskip, Option.map_some, if_pos (by simp [hd.atEnd_eq])]
    exact ⟨d, rfl, hd⟩
  · -- what is left begins with a token, because the gap before it has been skipped
    obtain ⟨kind, text, rest, hrest, hlexeme⟩ :=
      Token.exists_lexeme s.table hnil (Token.not_opensGap_skipTrivia .blank s.rest)
    rw [hrest] at hd
    obtain ⟨c', hscan, hbehind⟩ := exists_scan_of_lexeme hskip hd hlexeme
    rw [next_eq_of_lexeme hlexeme hrest hd hbehind]
    exact ⟨c', hscan, hbehind⟩

theorem next_file (s : Scanner) : s.next.2.file = s.file := by
  unfold Scanner.next
  dsimp only
  split <;> rfl

theorem next_table (s : Scanner) : s.next.2.table = s.table := by
  unfold Scanner.next
  dsimp only
  split <;> rfl

/-- A walk and a scanner list the same tokens. -/
theorem tokens_eq {s : Scanner} (fuel : Nat) (h : c.At s.file s.rest) :
    c.tokens s.table fuel = some (s.tokens fuel) := by
  induction fuel generalizing c s with
  | zero =>
    obtain ⟨c', hscan, -⟩ := scan_eq h
    rw [tokens, hscan]
    rfl
  | succ fuel ih =>
    obtain ⟨c', hscan, hbehind⟩ := scan_eq h
    rw [← next_file s] at hbehind
    have hmore := ih hbehind
    rw [next_table] at hmore
    rw [tokens, hscan, Option.bind_some]
    simp only [hmore, Scanner.tokens, Option.map_some]
    split <;> rfl

end Cursor

/-- **The tokens of a file are those of a walk over its bytes.** A file has them iff a cursor can be
put at its beginning. -/
theorem SourceFile.tokens?_eq_walk (file : SourceFile) (table : WordTable) :
    file.tokens? table =
      (Cursor.start? file).bind fun c => c.tokens table file.content.length := by
  cases hstart : Cursor.start? file with
  | none =>
    rw [SourceFile.tokens?, hstart]
    rfl
  | some c =>
    have hat : c.At (Scanner.start file table).file (Scanner.start file table).rest :=
      Cursor.at_of_start? hstart
    have hwalk := Cursor.tokens_eq file.content.length hat
    rw [SourceFile.tokens?, hstart, Option.map_some, Option.bind_some]
    exact hwalk.symm

end AdtCompiler
