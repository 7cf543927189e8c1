import AdtCompiler.Proofs.RoundTrip
import AdtCompiler.Proofs.Tiling

/-!
# Blanks and comments are insignificant

Blanks and comments that are ended may be put before any token of a source without changing the
kinds and the texts of its tokens, and so without changing what it means. The one exception is the
place right behind a lone `/`, which would open a comment together with the first byte of another
one. The scanner finds the token again because a gap depends on what follows it by one byte only,
and so does a lexeme.

## Contents

- `Filler`: blanks and ended comments
- `Gap.of_head?_eq`, `Lexeme.of_head?_eq`: what follows matters by its first byte
- `Scans.insert`: a filler before a token changes no spelling
- `SourceFile.filler_insignificant`
-/

namespace AdtCompiler

open Token
open Source (newline)

namespace Token

/-! ## Fillers -/

/-- Blanks, line comments with the line feed that ends them, and block comments that are ended by
the first `*/` behind their opening, in any order. -/
inductive Filler : Text → Prop where
  | nil : Filler []
  | blank {b : UInt8} {t : Text} (hb : isBlank b = true) (h : Filler t) : Filler (b :: t)
  | line {body t : Text} (hbody : newline ∉ body) (h : Filler t) :
      Filler (slash :: slash :: (body ++ newline :: t))
  | block {body t : Text} (hbody : ¬ [star, slash] <:+: body ++ [star]) (h : Filler t) :
      Filler (slash :: star :: (body ++ star :: slash :: t))

namespace Filler

variable {s t : Text}

theorem append (hs : Filler s) (ht : Filler t) : Filler (s ++ t) := by
  induction hs with
  | nil => exact ht
  | blank hb _ ih => exact .blank hb ih
  | line hbody _ ih =>
    simp only [List.cons_append, List.append_assoc]
    exact .line hbody ih
  | block hbody _ ih =>
    simp only [List.cons_append, List.append_assoc]
    exact .block hbody ih

/-- A filler is a gap before whatever follows it. -/
theorem gap (ht : Filler t) (rest : Text) : Gap t rest := by
  induction ht with
  | nil => exact .nil rest
  | blank hb _ ih => exact .blank hb ih
  | line hbody _ ih => exact .line hbody (by simp) (.blank (by decide) ih)
  | block hbody _ ih => exact .block hbody ih

/-- No word goes on into a filler. -/
theorem head?_not_word (ht : Filler t) : ∀ b ∈ t.head?, isWordByte b = false := by
  intro b hb
  cases ht with
  | nil => cases hb
  | blank hblank _ =>
    cases Option.mem_some.mp hb
    simp [isWordByte, hblank]
  | line _ _ | block _ _ =>
    cases Option.mem_some.mp hb
    decide

/-- What stands behind a line feed at the head of a filler is a filler. -/
theorem of_newline_cons (h : Filler (newline :: t)) : Filler t := by
  generalize hwhole : newline :: t = whole at h
  cases h with
  | nil => cases hwhole
  | blank _ h =>
    cases hwhole
    exact h
  | line _ _ | block _ _ => exact absurd (List.cons.inj hwhole).1 (by decide)

end Filler

/-- The comments of a gap before a token are ended. -/
theorem Gap.filler {gap rest : Text} (h : Gap gap rest)
    (hrest : ∃ b ∈ rest.head?, b ≠ newline) : Filler gap := by
  induction h with
  | nil rest => exact .nil
  | blank hb _ ih => exact .blank hb (ih hrest)
  | @line body gap rest hbody hend _ ih =>
    cases gap with
    | nil =>
      -- a line comment right before the rest would have to end at a line feed
      obtain ⟨b, hb, hne⟩ := hrest
      exact absurd (hend b hb) hne
    | cons c gap =>
      cases hend c rfl
      exact .line hbody (ih hrest).of_newline_cons
  | block hbody _ ih => exact .block hbody (ih hrest)
  | unclosed _ =>
    obtain ⟨b, hb, -⟩ := hrest
    cases hb

/-! ## What follows a gap or a lexeme -/

/-- A gap depends on what follows it by the first byte only. -/
theorem Gap.of_head?_eq {gap rest rest' : Text} (h : Gap gap rest)
    (hhead : rest'.head? = rest.head?) : Gap gap rest' := by
  induction h with
  | nil rest => exact .nil rest'
  | blank hb _ ih => exact .blank hb (ih hhead)
  | line hbody hend _ ih =>
    refine .line hbody (fun b hb => hend b ?_) (ih hhead)
    rwa [List.head?_append, ← hhead, ← List.head?_append]
  | block hbody _ ih => exact .block hbody (ih hhead)
  | unclosed hbody =>
    cases List.head?_eq_none_iff.mp hhead
    exact .unclosed hbody

/-- Before a token a gap does not depend on what follows the token. -/
theorem Gap.before_text {gap text rest : Text} (h : Gap gap (text ++ rest)) (hne : text ≠ [])
    (rest' : Text) : Gap gap (text ++ rest') := by
  obtain ⟨b, text, rfl⟩ := List.exists_cons_of_ne_nil hne
  exact h.of_head?_eq rfl

namespace Lexeme

variable {table : WordTable} {kind : TokenKind} {text rest rest' : Text}

/-- A lexeme depends on what follows it by the first byte only. -/
theorem of_head?_eq (h : Lexeme table kind text rest) (hhead : rest'.head? = rest.head?) :
    Lexeme table kind text rest' := by
  cases h with
  | mark _ hmark => exact .mark rest' hmark
  | lone hlone hopen => exact .lone hlone (hhead ▸ hopen)
  | word hne hword hend => exact .word hne hword (hhead ▸ hend)

/-- A lexeme stays the same when a filler is put somewhere behind it. A slash must not be followed
by the filler at once, because it could open a comment then. -/
theorem before_filler {a b t : Text} (h : Lexeme table kind text (a ++ b)) (ht : Filler t)
    (hslash : a = [] → text ≠ [slash]) : Lexeme table kind text (a ++ (t ++ b)) := by
  cases a with
  | cons c a => exact h.of_head?_eq rfl
  | nil =>
    cases h with
    | mark _ hmark => exact .mark _ hmark
    | lone hlone _ => exact .lone hlone fun hb => absurd (by rw [hb]) (hslash rfl)
    | word hne hword hend =>
      refine .word hne hword fun c hc => ?_
      cases t with
      | nil => exact hend c hc
      | cons d t => exact ht.head?_not_word c hc

/-- A slash is a token of no known kind. -/
theorem kind_of_slash (h : Lexeme table kind [slash] rest) : kind = .unknown := by
  generalize htext : [slash] = text at h
  cases h with
  | mark _ hmark =>
    rw [← (List.cons.inj htext).1] at hmark
    exact absurd hmark (by simp [punctuation?_eq_none])
  | lone _ _ => rfl
  | word _ hword _ =>
    subst htext
    exact absurd (hword slash (by simp)) (by decide)

/-- A token begins with a byte other than a line feed. -/
theorem exists_head? (h : Lexeme table kind text rest) (more : Text) :
    ∃ b ∈ (text ++ more).head?, b ≠ newline := by
  cases text with
  | nil => exact absurd rfl h.ne_nil
  | cons b text =>
    refine ⟨b, rfl, ?_⟩
    rintro rfl
    exact h.newline_not_mem (List.mem_cons_self ..)

end Lexeme

end Token

/-! ## Inserting a filler -/

/-- Whether a place of a file is right behind a lone `/`. -/
def SourceFile.BehindSlash (file : SourceFile) (table : WordTable) (offset : UInt32) : Prop :=
  ∃ p ∈ file.lexed table, p.kind = .unknown ∧ p.text = [slash] ∧ p.span.stop = offset

/-- A part of a file is split before each of its tokens, and a filler put there changes the
spelling of no token. -/
theorem Scans.insert {file : SourceFile} {table : WordTable} {u : Text} {tokens : List Token}
    (h : Scans file table u tokens) (hsize : file.content.length < UInt32.size) (before : Text)
    (hcontent : file.content = before ++ u) {token : Token} (htoken : token ∈ tokens)
    (hslash : ∀ p ∈ tokens, p.kind = .unknown → p.text = [slash] → p.span.stop ≠ token.span.start)
    {t : Text} (ht : Filler t) (other : SourceFile) :
    ∃ a b tokens', u = a ++ b ∧ token.span.start.toNat = (before ++ a).length ∧
      Scans other table (a ++ (t ++ b)) tokens' ∧
      tokens'.map Token.spelling = tokens.map Token.spelling := by
  -- the part before grows by a gap and a token in every step, up to the token that is meant
  induction h generalizing before with
  | stop hgap => cases htoken
  | @step gap text rest kind tokens hgap hlexeme h ih =>
    have hcontent' : file.content = (before ++ gap) ++ (text ++ rest) := by
      rw [hcontent, List.append_assoc]
    obtain ⟨hstart, hstop⟩ := span_tokenBefore kind hcontent' hsize
    rcases List.mem_cons.mp htoken with rfl | htoken
    · -- the gap before the token grows by the filler
      obtain ⟨tokens', hscans, hspelling⟩ := h.exists_same_spelling other
      have hfiller : Filler (gap ++ t) := (hgap.filler (hlexeme.exists_head? rest)).append ht
      refine ⟨gap, text ++ rest, other.tokenBefore kind text rest :: tokens', rfl, hstart, ?_, ?_⟩
      · rw [← List.append_assoc]
        exact .step (hfiller.gap _) hlexeme hscans
      · rw [List.map_cons, List.map_cons, hspelling]
        rfl
    · have hcontent'' : file.content = ((before ++ gap) ++ text) ++ rest := by
        rw [hcontent', List.append_assoc (before ++ gap)]
      obtain ⟨a, b, tokens', rfl, hoffset, hscans, hspelling⟩ :=
        ih _ hcontent'' htoken fun p hp => hslash p (List.mem_cons_of_mem _ hp)
      have hlexeme' : Lexeme table kind text (a ++ (t ++ b)) := by
        refine hlexeme.before_filler ht fun ha htext => ?_
        -- the token would be a slash that ends where the filler begins
        have hkind : kind = .unknown := (htext ▸ hlexeme).kind_of_slash
        refine hslash _ List.mem_cons_self hkind htext (UInt32.toNat_inj.mp ?_)
        rw [hstop, hoffset]
        simp only [ha, List.append_nil, List.length_append]
      have hstep := Scans.step (hgap.before_text hlexeme.ne_nil _) hlexeme' hscans
      refine ⟨gap ++ (text ++ a), b, _, ?_, ?_, by simpa only [List.append_assoc] using hstep, ?_⟩
      · simp only [List.append_assoc]
      · rw [hoffset]
        simp only [List.append_assoc]
      · rw [List.map_cons, List.map_cons, hspelling]
        rfl

/-- A filler before a token, but not right behind a lone `/`, changes no spelling in the file. -/
theorem SourceFile.map_spelling_of_filler {file other : SourceFile} {table : WordTable}
    {token : Token} {t : Text} (hsize : file.content.length < UInt32.size)
    (htoken : token ∈ file.lexed table) (hkind : token.kind ≠ .eof)
    (hslash : ¬ file.BehindSlash table token.span.start) (ht : Filler t)
    (hcontent : other.content = file.content.take token.span.start.toNat ++ t ++
      file.content.drop token.span.start.toNat) :
    (other.lexed table).map Token.spelling = (file.lexed table).map Token.spelling := by
  obtain ⟨tokens, hscans⟩ := exists_scans file table file.content
  have hlexed := hscans.lexed_eq
  -- the end token is the only one of its kind
  have hmem : token ∈ tokens := by
    rw [hlexed] at htoken
    rcases List.mem_append.mp htoken with hmem | hend
    · exact hmem
    · exact absurd (by rw [List.mem_singleton.mp hend]; rfl) hkind
  have hapart : ∀ p ∈ tokens, p.kind = .unknown → p.text = [slash] →
      p.span.stop ≠ token.span.start := by
    intro p hp hunknown htext hstop
    apply hslash
    exact ⟨p, hlexed ▸ List.mem_append_left _ hp, hunknown, htext, hstop⟩
  obtain ⟨a, b, tokens', hsplit, hoffset, hscans', hspelling⟩ :=
    hscans.insert hsize [] rfl hmem hapart ht other
  have hinserted : other.content = a ++ (t ++ b) := by
    rw [hcontent, hoffset, hsplit, List.nil_append, List.take_left, List.drop_left,
      List.append_assoc]
  rw [← hinserted] at hscans'
  exact hscans.map_spelling_lexed hscans' hspelling

/-- **Blanks and comments are insignificant.** A filler put before a token, but not right behind a
lone `/`, changes neither the kinds nor the texts of the tokens, so the source is read as before
or refused as before, unless the filler makes it too long. -/
theorem SourceFile.filler_insignificant (file other : SourceFile) (table : WordTable)
    (hsize : file.content.length < UInt32.size) (token : Token) (htoken : token ∈ file.lexed table)
    (hkind : token.kind ≠ .eof) (hslash : ¬ file.BehindSlash table token.span.start)
    (t : Text) (ht : Filler t)
    (hcontent : other.content = file.content.take token.span.start.toNat ++ t ++
      file.content.drop token.span.start.toNat) :
    (other.lexed table).map Token.spelling = (file.lexed table).map Token.spelling ∧
    (other.content.length < UInt32.size →
      ((∃ doc, other.parse table = .ok doc) ↔ ∃ doc, file.parse table = .ok doc)) ∧
    ∀ doc doc', file.parse table = .ok doc → other.parse table = .ok doc' →
      doc'.equal doc = true := by
  have hspelling := map_spelling_of_filler hsize htoken hkind hslash ht hcontent
  refine ⟨hspelling, fun hother => ⟨?_, ?_⟩, fun doc doc' h h' => ?_⟩
  · rintro ⟨doc, h⟩
    exact ⟨_, (parse_eq_ok_of_spelling hsize hspelling.symm h).2⟩
  · rintro ⟨doc, h⟩
    exact ⟨_, (parse_eq_ok_of_spelling hother hspelling h).2⟩
  · have hother := (parse_eq_ok_of_spelling (length_lt_of_parse h') hspelling h).2
    cases h'.symm.trans hother
    exact doc.equal_of_source other.path

/-- A file in which a word follows a lone `*` at once. -/
def starred : SourceFile := { id := 0, path := "s.adt", content := "T=*A", flags := 0 }

/-- The file with two comments between them, neither of which ends where it seems to. -/
def starredApart : SourceFile :=
  { id := 0, path := "s.adt", content := "T=*/*/ // */\t//*/\nA", flags := 0 }

/-- The comments before the word change no token of the file. -/
theorem SourceFile.filler_insignificant_starred :
    ⟨.ident, "A", 1, 4, ⟨0, 3, 4⟩⟩ ∈ starred.lexed {} ∧ ¬ starred.BehindSlash {} 3 ∧
      Filler "/*/ // */\t//*/\n" ∧
      (starredApart.lexed {}).map Token.spelling = (starred.lexed {}).map Token.spelling := by
  have htoken : ⟨.ident, "A", 1, 4, ⟨0, 3, 4⟩⟩ ∈ starred.lexed {} := by decide +kernel
  have hslash : ¬ starred.BehindSlash {} 3 := by
    have hnone : ∀ p ∈ starred.lexed {}, p.text ≠ [slash] := by decide +kernel
    rintro ⟨p, hp, -, htext, -⟩
    exact hnone p hp htext
  have hfiller : Filler "/*/ // */\t//*/\n" :=
    @Filler.block "/ // " "\t//*/\n" (by decide)
      (.blank (by decide) (@Filler.line "*/" [] (by decide) .nil))
  refine ⟨htoken, hslash, hfiller, ?_⟩
  exact (SourceFile.filler_insignificant starred starredApart {} (by decide) _ htoken (by decide)
    hslash _ hfiller (by decide)).1

-- a line comment right behind a lone `/` is none: the slash opens one together with its first byte
example :
    Parser.kinds (SourceFile.lexed { id := 0, path := [], content := "/A", flags := 0 } {}) =
      [.unknown, .ident, .eof] ∧
    Parser.kinds (SourceFile.lexed { id := 0, path := [], content := "///\nA", flags := 0 } {}) =
      [.ident, .eof] := by
  decide

end AdtCompiler
