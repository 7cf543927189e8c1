import AdtCompiler.Proofs.Lexeme

/-!
# Scanning a file

A text is cut into tokens in one way: a gap, a lexeme, a gap, and so on up to the end. `Scans` is
that cutting, and the scanner, the list of a file's tokens and the token stream all follow it.

## Contents

- `Scans` and the step of the scanner
- every text is scanned
- the tokens of a file, and the tokens that a stream hands out call by call
-/

namespace AdtCompiler

open Token

/-! ## Cutting a text into tokens -/

/-- The token of a kind and a text that stands in a file before a rest of it. -/
def SourceFile.tokenBefore (file : SourceFile) (kind : TokenKind) (text rest : Text) : Token :=
  let start := (file.content.length - (text ++ rest).length).toUInt32
  Token.make file kind text start (start + text.length.toUInt32)

/-- The end token of a file. -/
def SourceFile.endToken (file : SourceFile) : Token :=
  Token.make file .eof eofText file.content.length.toUInt32 file.content.length.toUInt32

@[simp] theorem SourceFile.kind_endToken (file : SourceFile) : file.endToken.kind = .eof := rfl

/-- The tokens of a rest of a file: gaps and lexemes in turn up to the end. -/
inductive Scans (file : SourceFile) (table : WordTable) : Text → List Token → Prop where
  | stop {gap : Text} (hgap : Gap gap []) : Scans file table gap []
  | step {gap text rest : Text} {kind : TokenKind} {tokens : List Token}
      (hgap : Gap gap (text ++ rest)) (hlexeme : Lexeme table kind text rest)
      (h : Scans file table rest tokens) :
      Scans file table (gap ++ (text ++ rest)) (file.tokenBefore kind text rest :: tokens)

/-- The scanner at a rest of a file without tokens. -/
theorem Token.Scanner.next_of_end (file : SourceFile) (table : WordTable) {gap : Text}
    (hgap : Gap gap []) :
    (Scanner.mk file table gap).next = (file.endToken, ⟨file, table, []⟩) := by
  have hskip : skipTrivia .blank gap = [] := by
    simpa using hgap.skipTrivia_eq (by simp [opensGap])
  simp only [Scanner.next, hskip]
  rfl

/-- The scanner before a token. -/
theorem Token.Scanner.next_of_lexeme (file : SourceFile) (table : WordTable)
    {gap text rest : Text} {kind : TokenKind} (hgap : Gap gap (text ++ rest))
    (hlexeme : Lexeme table kind text rest) :
    (Scanner.mk file table (gap ++ (text ++ rest))).next =
      (file.tokenBefore kind text rest, ⟨file, table, rest⟩) := by
  simp only [Scanner.next, hgap.skipTrivia_eq hlexeme.not_opensGap, hlexeme.lexeme_eq]
  -- an empty lexeme would be taken for the end
  cases text with
  | nil => exact absurd rfl hlexeme.ne_nil
  | cons b text =>
    simp only [List.drop_left]
    rfl

/-- Every text is scanned. -/
theorem exists_scans (file : SourceFile) (table : WordTable) (t : Text) :
    ∃ tokens, Scans file table t tokens := by
  obtain ⟨gap, ht, hgap⟩ := skipTrivia_skips .blank t
  -- behind the gap there is the end, or a token and then a shorter text
  by_cases hend : skipTrivia .blank t = []
  · rw [hend] at hgap ht
    rw [List.append_nil] at ht
    exact ⟨[], .stop (ht ▸ hgap)⟩
  · obtain ⟨kind, text, rest, hsplit, hlexeme⟩ :=
      exists_lexeme table hend (not_opensGap_skipTrivia .blank t)
    rw [hsplit] at hgap ht
    have hless : rest.length < t.length := by
      have := List.length_pos_iff.mpr hlexeme.ne_nil
      rw [ht, List.length_append, List.length_append]
      omega
    obtain ⟨tokens, h⟩ := exists_scans file table rest
    rw [ht]
    exact ⟨_, .step hgap hlexeme h⟩
termination_by t.length

namespace Scans

variable {file : SourceFile} {table : WordTable} {t : Text} {tokens : List Token}

/-- Every token covers a byte of its own. -/
theorem length_le (h : Scans file table t tokens) : tokens.length ≤ t.length := by
  induction h with
  | stop hgap => exact Nat.zero_le _
  | step hgap hlexeme h ih =>
    have := List.length_pos_iff.mpr hlexeme.ne_nil
    simp only [List.length_cons, List.length_append]
    omega

theorem kind_ne_eof (h : Scans file table t tokens) : ∀ token ∈ tokens, token.kind ≠ .eof := by
  induction h with
  | stop hgap => simp
  | step hgap hlexeme h ih =>
    intro token htoken
    rcases List.mem_cons.mp htoken with rfl | htoken
    · exact hlexeme.ne_eof
    · exact ih token htoken

/-- The scanner lists the tokens and then the end token. -/
theorem tokens_eq (h : Scans file table t tokens) (fuel : Nat) (hfuel : tokens.length ≤ fuel) :
    (Scanner.mk file table t).tokens fuel = (tokens, file.endToken) := by
  induction h generalizing fuel with
  | stop hgap =>
    cases fuel with
    | zero => simp [Scanner.tokens, Scanner.next_of_end file table hgap]
    | succ fuel => simp [Scanner.tokens, Scanner.next_of_end file table hgap]
  | @step gap text rest kind tokens hgap hlexeme h ih =>
    cases fuel with
    | zero => exact absurd hfuel (by simp)
    | succ fuel =>
      have hkind : (file.tokenBefore kind text rest).kind ≠ .eof := hlexeme.ne_eof
      simp only [Scanner.tokens, Scanner.next_of_lexeme file table hgap hlexeme, hkind, if_false,
        ih fuel (by simpa using hfuel)]

end Scans

/-! ## Streams -/

namespace TokenStream

/-- The stream after a number of calls of `next`. -/
def after (s : TokenStream) : Nat → TokenStream
  | 0 => s
  | i + 1 => s.next.2.after i

/-- The token that a call of `next` returns; calls are counted from zero. -/
def nth (s : TokenStream) (i : Nat) : Token := (s.after i).next.1

variable {file : SourceFile} {table : WordTable} {t : Text} {tokens : List Token}

/-- Call by call a stream hands out the tokens and then the end token for ever. -/
theorem nth_eq (h : Scans file table t tokens) (i : Nat) (text : Text) (line : UInt32) :
    (TokenStream.mk ⟨file, table, t⟩ none text line).nth i = tokens[i]?.getD file.endToken := by
  induction h generalizing i text line with
  | @stop gap hgap =>
    -- behind the end token there is an empty rest, which is a gap again
    have hempty : ∀ (j : Nat) (text : Text) (line : UInt32),
        (TokenStream.mk ⟨file, table, []⟩ none text line).nth j = file.endToken := by
      intro j
      induction j with
      | zero =>
        intro text line
        simp only [nth, after, next, scan, Scanner.next_of_end file table (.nil [])]
      | succ j ih =>
        intro text line
        simpa only [nth, after, next, scan, Scanner.next_of_end file table (.nil [])] using ih _ _
    cases i with
    | zero => simp [nth, after, next, scan, Scanner.next_of_end file table hgap]
    | succ i =>
      simpa [nth, after, next, scan, Scanner.next_of_end file table hgap] using hempty i _ _
  | step hgap hlexeme h ih =>
    cases i with
    | zero => simp [nth, after, next, scan, Scanner.next_of_lexeme file table hgap hlexeme]
    | succ i =>
      simpa [nth, after, next, scan, Scanner.next_of_lexeme file table hgap hlexeme] using ih i _ _

/-- Draining a stream takes the tokens and the end token. -/
theorem takeAll_eq (h : Scans file table t tokens) (fuel : Nat) (hfuel : tokens.length < fuel)
    (text : Text) (line : UInt32) :
    ((TokenStream.mk ⟨file, table, t⟩ none text line).takeAll fuel).1 =
      tokens ++ [file.endToken] := by
  induction h generalizing fuel text line with
  | stop hgap =>
    cases fuel with
    | zero => exact absurd hfuel (by simp)
    | succ fuel => simp [takeAll, next, scan, Scanner.next_of_end file table hgap]
  | @step gap lexeme rest kind tokens hgap hlexeme h ih =>
    cases fuel with
    | zero => exact absurd hfuel (by simp)
    | succ fuel =>
      have hkind : (file.tokenBefore kind lexeme rest).kind ≠ .eof := hlexeme.ne_eof
      simp only [takeAll, next, scan, Scanner.next_of_lexeme file table hgap hlexeme, hkind,
        if_false, List.cons_append, ih fuel (by simpa using hfuel)]

end TokenStream

/-- The tokens that the stream of a file hands out, up to and with the end token. -/
def SourceFile.lexed (file : SourceFile) (table : WordTable) : List Token :=
  (TokenStream.start file table).drain.1

/-- The tokens that tile a file are those that its stream hands out before the end token. -/
theorem Scans.lexed_eq {file : SourceFile} {table : WordTable} {tokens : List Token}
    (h : Scans file table file.content tokens) :
    file.lexed table = tokens ++ [file.endToken] := by
  refine TokenStream.takeAll_eq h _ ?_ _ _
  exact Nat.lt_of_le_of_lt h.length_le (Nat.lt_add_of_pos_right (by decide))

/-- The calls of `next` before the end return the tokens in order. -/
theorem Scans.nth_of_lt {file : SourceFile} {table : WordTable} {tokens : List Token}
    (h : Scans file table file.content tokens) {i : Nat} (hi : i < tokens.length) :
    (TokenStream.start file table).nth i = tokens[i] := by
  have hnth : (TokenStream.start file table).nth i = tokens[i]?.getD file.endToken :=
    TokenStream.nth_eq h i _ _
  rw [hnth, List.getElem?_eq_getElem hi, Option.getD_some]

/-- All later calls of `next` return the end token. -/
theorem Scans.nth_of_le {file : SourceFile} {table : WordTable} {tokens : List Token}
    (h : Scans file table file.content tokens) {i : Nat} (hi : tokens.length ≤ i) :
    (TokenStream.start file table).nth i = file.endToken := by
  have hnth : (TokenStream.start file table).nth i = tokens[i]?.getD file.endToken :=
    TokenStream.nth_eq h i _ _
  rw [hnth, List.getElem?_eq_none hi, Option.getD_none]

/-- Draining the stream of a file takes what its calls of `next` return up to the end token. -/
theorem Scans.lexed_eq_map_nth {file : SourceFile} {table : WordTable} {tokens : List Token}
    (h : Scans file table file.content tokens) :
    file.lexed table =
      (List.range (tokens.length + 1)).map (TokenStream.start file table).nth := by
  have htokens : tokens =
      (List.range tokens.length).map (TokenStream.start file table).nth := by
    apply List.ext_getElem
    · simp
    · intro i hi _
      rw [List.getElem_map, List.getElem_range, h.nth_of_lt hi]
  rw [h.lexed_eq, List.range_succ, List.map_append, List.map_singleton,
    h.nth_of_le (Nat.le_refl _), ← htokens]

/-- The tokens of a file are those that tile it. -/
theorem Scans.file_tokens_eq {file : SourceFile} {table : WordTable} {tokens : List Token}
    (h : Scans file table file.content tokens) : file.tokens table = (tokens, file.endToken) :=
  h.tokens_eq _ h.length_le

end AdtCompiler
