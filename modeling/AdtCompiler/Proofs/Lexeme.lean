import AdtCompiler.Token.Lexer

/-!
# Gaps and lexemes

What stands between tokens and what a token is made of, said without the functions that skip the
one and cut off the other.

- `Gap gap rest`: `gap` is made of blanks and comments that end where `rest` begins.
- `Lexeme table kind text rest`: `text` is a token of a kind, and the longest one, when `rest`
  follows it.

`skipTrivia` drops a gap, and behind it `lexeme` cuts off a lexeme.
-/

namespace AdtCompiler

/-- A word that the table knows is a keyword or reserved. -/
theorem WordTable.lookup?_cases {table : WordTable} {word : Text} {kind : TokenKind}
    (h : table.lookup? word = some kind) :
    (∃ entry ∈ keywords, entry.2 = kind) ∨ kind = .reserved := by
  unfold lookup? at h
  split at h
  case h_1 entry hfound =>
    cases h
    exact .inl ⟨_, List.mem_of_find?_eq_some hfound, rfl⟩
  case h_2 =>
    split at h
    · cases h
      exact .inr rfl
    · cases h

namespace Token

open Source (newline)

/-! ## Gaps -/

/-- Blanks and comments that end where the rest begins. -/
inductive Gap : Text → Text → Prop where
  | nil (rest : Text) : Gap [] rest
  /-- A space, a tab, a carriage return or a line feed. -/
  | blank {b : UInt8} {gap rest : Text} (hb : isBlank b = true) (h : Gap gap rest) :
      Gap (b :: gap) rest
  /-- A line comment runs up to a line feed or the end. -/
  | line {body gap rest : Text} (hbody : newline ∉ body)
      (hend : ∀ b ∈ (gap ++ rest).head?, b = newline) (h : Gap gap rest) :
      Gap (slash :: slash :: (body ++ gap)) rest
  /-- A block comment runs up to the first `*/` behind its opening. -/
  | block {body gap rest : Text} (hbody : ¬ [star, slash] <:+: body ++ [star])
      (h : Gap gap rest) :
      Gap (slash :: star :: (body ++ star :: slash :: gap)) rest
  /-- A block comment that is not closed runs up to the end. -/
  | unclosed {body : Text} (hbody : ¬ [star, slash] <:+: body) :
      Gap (slash :: star :: body) []

/-- What the lexer is about to skip is a gap, or what is left of the comment it is in and then a
gap. -/
def Trivia.Skips : Trivia → Text → Text → Prop
  | .blank, part, rest => Gap part rest
  | .line, part, rest => Gap (slash :: slash :: part) rest
  | .block, part, rest => Gap (slash :: star :: part) rest

/-- A byte other than a line feed lengthens a line comment. -/
theorem Gap.line_cons {b : UInt8} {part rest : Text} (hb : b ≠ newline)
    (h : Gap (slash :: slash :: part) rest) : Gap (slash :: slash :: b :: part) rest := by
  -- what begins with `//` can only be a line comment
  generalize hwhole : slash :: slash :: part = whole at h
  cases h with
  | nil | block _ _ | unclosed _ => simp [slash, star] at hwhole
  | blank hblank =>
    cases hwhole
    exact absurd hblank (by decide)
  | @line body gap _ hbody hend h =>
    simp only [List.cons.injEq, true_and] at hwhole
    subst hwhole
    exact @Gap.line (b :: body) gap rest (List.not_mem_cons_of_ne_of_not_mem hb.symm hbody) hend h

/-- The end of a block comment is at the head of a text or behind its first byte. -/
theorem closed_cons_iff {b : UInt8} {t : Text} : [star, slash] <:+: b :: t ↔
    (b = star ∧ t.head? = some slash) ∨ [star, slash] <:+: t := by
  have hhead : [slash] <+: t ↔ t.head? = some slash := by cases t <;> simp [eq_comm]
  rw [List.infix_cons_iff, List.cons_prefix_cons, hhead, @eq_comm _ star]

/-- A byte that does not close it lengthens a block comment. -/
theorem Gap.block_cons {b : UInt8} {part rest : Text}
    (hb : ¬ (b = star ∧ part.head? = some slash))
    (h : Gap (slash :: star :: part) rest) : Gap (slash :: star :: b :: part) rest := by
  -- what begins with `/*` can only be a block comment, closed or not
  generalize hwhole : slash :: star :: part = whole at h
  cases h with
  | nil | line _ _ _ => simp [slash, star] at hwhole
  | blank hblank =>
    cases hwhole
    exact absurd hblank (by decide)
  | @block body gap _ hbody h =>
    simp only [List.cons.injEq, true_and] at hwhole
    subst hwhole
    refine @Gap.block (b :: body) gap rest (fun hclosed => ?_) h
    rcases closed_cons_iff.mp hclosed with ⟨hstar, hslash⟩ | hclosed
    · -- an empty body is followed by the closing star, not by a slash
      cases body with
      | nil => simp [star, slash] at hslash
      | cons c body => exact hb ⟨hstar, hslash⟩
    · exact hbody hclosed
  | unclosed hbody =>
    simp only [List.cons.injEq, true_and] at hwhole
    subst hwhole
    refine .unclosed fun hclosed => ?_
    rcases closed_cons_iff.mp hclosed with hclosed | hclosed
    · exact hb hclosed
    · exact hbody hclosed

/-- Skipping drops what the lexer is within. -/
theorem skipTrivia_skips (mode : Trivia) (t : Text) :
    ∃ part, t = part ++ skipTrivia mode t ∧ mode.Skips part (skipTrivia mode t) := by
  -- by the cases of the lexer: the end, blanks, comment openings, and the two kinds of comments
  fun_induction skipTrivia mode t with
  | case1 mode =>
    refine ⟨[], rfl, ?_⟩
    cases mode with
    | blank => exact .nil []
    | line => exact @Gap.line [] [] [] (by simp) (by simp) (.nil [])
    | block => exact .unclosed (by simp)
  | case2 b t hb ih =>
    obtain ⟨part, ht, hpart⟩ := ih
    exact ⟨b :: part, congrArg (b :: ·) ht, .blank hb hpart⟩
  | case3 | case6 | case7 => exact ⟨[], rfl, .nil _⟩
  | case4 u hb ih =>
    obtain ⟨part, ht, hpart⟩ := ih
    exact ⟨slash :: slash :: part, congrArg (slash :: slash :: ·) ht, hpart⟩
  | case5 u hb hc ih =>
    obtain ⟨part, ht, hpart⟩ := ih
    exact ⟨slash :: star :: part, congrArg (slash :: star :: ·) ht, hpart⟩
  | case8 t ih =>
    -- the line feed ends the comment and is a blank of the gap behind it
    obtain ⟨part, ht, hpart⟩ := ih
    exact ⟨newline :: part, congrArg (newline :: ·) ht,
      @Gap.line [] (newline :: part) _ (by simp) (by simp) (.blank (by decide) hpart)⟩
  | case9 b t hb ih =>
    obtain ⟨part, ht, hpart⟩ := ih
    exact ⟨b :: part, congrArg (b :: ·) ht, Gap.line_cons hb hpart⟩
  | case10 b =>
    refine ⟨[b], rfl, .unclosed fun h => ?_⟩
    have := h.length_le
    simp at this
  | case11 b c u hclosed ih =>
    obtain ⟨rfl, rfl⟩ := hclosed
    obtain ⟨part, ht, hpart⟩ := ih
    refine ⟨star :: slash :: part, congrArg (star :: slash :: ·) ht,
      @Gap.block [] part _ (fun h => ?_) hpart⟩
    have := h.length_le
    simp at this
  | case12 b c u hopen ih =>
    -- the comment goes on, and so the part that is skipped is not empty
    obtain ⟨part, ht, hpart⟩ := ih
    refine ⟨b :: part, congrArg (b :: ·) ht, Gap.block_cons (fun h => hopen ⟨h.1, ?_⟩) hpart⟩
    cases part with
    | nil => exact absurd h.2 (by simp)
    | cons d part =>
      rw [(List.cons.inj ht).1]
      exact Option.some.inj h.2

/-- The byte before a token that does not follow the previous one at once is no word byte. -/
theorem Gap.getLast?_not_word {gap rest : Text} (h : Gap gap rest)
    (hrest : ∃ b ∈ rest.head?, b ≠ newline) : ∀ b ∈ gap.getLast?, isWordByte b = false := by
  induction h with
  | nil rest => simp
  | @blank b gap rest hb h ih =>
    cases gap with
    | nil => simp [isWordByte, hb]
    | cons c gap => simpa [List.getLast?_cons_cons] using ih hrest
  | @line body gap rest hbody hend h ih =>
    cases gap with
    | nil =>
      -- a line comment right before the rest would have to end at a line feed
      obtain ⟨b, hb, hne⟩ := hrest
      exact absurd (hend b hb) hne
    | cons c gap =>
      have hlast : (slash :: slash :: (body ++ c :: gap)).getLast? = (c :: gap).getLast? := by
        rw [← List.cons_append, ← List.cons_append, List.getLast?_append, List.getLast?_cons]
        rfl
      rw [hlast]
      exact ih hrest
  | @block body gap rest hbody h ih =>
    have hlast : (slash :: star :: (body ++ star :: slash :: gap)).getLast? =
        gap.getLast?.or (some slash) := by
      have hsplit : slash :: star :: (body ++ star :: slash :: gap) =
          (slash :: star :: body ++ [star, slash]) ++ gap := by simp
      rw [hsplit, List.getLast?_append, List.getLast?_append]
      rfl
    rw [hlast]
    cases hgap : gap.getLast? with
    | none => simp; decide
    | some c => simpa [hgap] using ih hrest
  | unclosed hbody =>
    obtain ⟨b, hb, _⟩ := hrest
    exact absurd hb (by simp)

/-! ## The whole gap is skipped -/

/-- Whether a text begins with a blank or a comment. -/
def opensGap : Text → Prop
  | [] => False
  | b :: t => isBlank b = true ∨ b = slash ∧ ∃ c ∈ t.head?, c = slash ∨ c = star

/-- Behind what is skipped there is no gap. -/
theorem not_opensGap_skipTrivia (mode : Trivia) (t : Text) :
    ¬ opensGap (skipTrivia mode t) := by
  fun_induction skipTrivia mode t with
  | case1 | case10 => simp [opensGap]
  | case3 hblank => simpa [opensGap] using hblank
  | case6 c u hblank hslash hstar => simp [opensGap, hblank, hslash, hstar]
  | case7 b t hblank hslash => simp [opensGap, hblank, hslash]
  | case2 _ _ _ ih | case4 _ _ ih | case5 _ _ _ ih | case8 _ ih | case9 _ _ _ ih
  | case11 _ _ _ _ ih | case12 _ _ _ _ ih => exact ih

theorem skipTrivia_eq_self {t : Text} (h : ¬ opensGap t) : skipTrivia .blank t = t := by
  cases t with
  | nil => rfl
  | cons b t =>
    obtain ⟨hblank, hcomment⟩ := not_or.mp h
    cases t with
    | nil => simp [skipTrivia, hblank]
    | cons c u =>
      -- a slash opens a comment only together with the byte behind it
      have hopen : ¬ (b = slash ∧ (c = slash ∨ c = star)) := by simpa using hcomment
      simp only [skipTrivia, hblank]
      grind

theorem skipTrivia_blank_cons {b : UInt8} (hb : isBlank b = true) (t : Text) :
    skipTrivia .blank (b :: t) = skipTrivia .blank t := by
  cases t <;> simp [skipTrivia, hb]

theorem skipTrivia_line {body t : Text} (hbody : newline ∉ body)
    (hend : ∀ b ∈ t.head?, b = newline) :
    skipTrivia .line (body ++ t) = skipTrivia .blank t := by
  induction body with
  | nil =>
    cases t with
    | nil => rfl
    | cons b t =>
      cases hend b rfl
      rw [skipTrivia_blank_cons (by decide)]
      rfl
  | cons b body ih =>
    simp only [List.mem_cons, not_or] at hbody
    have hb : ¬ b = 10 := fun h => hbody.1 h.symm
    simp only [List.cons_append, skipTrivia, hb, if_false]
    exact ih hbody.2

/-- Within a block comment a byte that does not close it is skipped. -/
theorem skipTrivia_block_cons {b : UInt8} {t : Text} (ht : t ≠ [])
    (hb : ¬ (b = star ∧ t.head? = some slash)) :
    skipTrivia .block (b :: t) = skipTrivia .block t := by
  cases t with
  | nil => exact absurd rfl ht
  | cons c t =>
    have hb : ¬ (b = star ∧ c = slash) := by simpa using hb
    simp only [skipTrivia, hb, if_false]

theorem skipTrivia_block {body t : Text} (hbody : ¬ [star, slash] <:+: body ++ [star]) :
    skipTrivia .block (body ++ star :: slash :: t) = skipTrivia .blank t := by
  induction body with
  | nil => rfl
  | cons b body ih =>
    obtain ⟨hhead, htail⟩ := not_or.mp fun h => hbody (closed_cons_iff.mpr h)
    rw [List.cons_append, skipTrivia_block_cons (by simp), ih htail]
    rintro ⟨rfl, hslash⟩
    refine hhead ⟨rfl, ?_⟩
    cases body with
    | nil => simp [star, slash] at hslash
    | cons c body => exact hslash

theorem skipTrivia_unclosed {body : Text} (hbody : ¬ [star, slash] <:+: body) :
    skipTrivia .block body = [] := by
  induction body with
  | nil => rfl
  | cons b body ih =>
    obtain ⟨hhead, htail⟩ := not_or.mp fun h => hbody (closed_cons_iff.mpr h)
    cases body with
    | nil => rfl
    | cons c body =>
      rw [skipTrivia_block_cons (List.cons_ne_nil c body) hhead]
      exact ih htail

/-- Before a text without a gap at its head a gap is skipped as a whole. -/
theorem Gap.skipTrivia_eq {gap rest : Text} (h : Gap gap rest) (hrest : ¬ opensGap rest) :
    skipTrivia .blank (gap ++ rest) = rest := by
  induction h with
  | nil rest => exact skipTrivia_eq_self hrest
  | blank hb h ih =>
    rw [List.cons_append, skipTrivia_blank_cons hb]
    exact ih hrest
  | @line body gap rest hbody hend h ih =>
    -- a line comment hides its body up to the line feed, which is left to the gap behind it
    have hopen : skipTrivia .blank (slash :: slash :: (body ++ gap) ++ rest) =
        skipTrivia .line (body ++ (gap ++ rest)) := by
      rw [← List.append_assoc]
      rfl
    rw [hopen, skipTrivia_line hbody hend]
    exact ih hrest
  | @block body gap rest hbody h ih =>
    have hopen : skipTrivia .blank (slash :: star :: (body ++ star :: slash :: gap) ++ rest) =
        skipTrivia .block (body ++ star :: slash :: (gap ++ rest)) := by
      have hassoc : body ++ star :: slash :: (gap ++ rest) =
          (body ++ star :: slash :: gap) ++ rest := by simp
      rw [hassoc]
      rfl
    rw [hopen, skipTrivia_block hbody]
    exact ih hrest
  | @unclosed body hbody =>
    -- a comment that is never closed takes the rest of the text, which is empty then
    rw [List.append_nil]
    exact skipTrivia_unclosed hbody

/-! ## Lexemes -/

/-- A token of a kind at the head of a text, with what follows it. -/
inductive Lexeme (table : WordTable) : TokenKind → Text → Text → Prop where
  /-- A punctuation mark. -/
  | mark {b : UInt8} {kind : TokenKind} (rest : Text) (hb : punctuation? b = some kind) :
      Lexeme table kind [b] rest
  /-- A `/` that opens no comment, or a `*`. -/
  | lone {b : UInt8} {rest : Text} (hb : b = slash ∨ b = star)
      (hopen : b = slash → ∀ c ∈ rest.head?, c ≠ slash ∧ c ≠ star) :
      Lexeme table .unknown [b] rest
  /-- A word up to the first byte that may not stand in a word. -/
  | word {word rest : Text} (hne : word ≠ []) (hword : ∀ b ∈ word, isWordByte b = true)
      (hend : ∀ b ∈ rest.head?, isWordByte b = false) :
      Lexeme table (table.classify word) word rest

/-- Blanks and the marks of comments are no punctuation. -/
theorem punctuation?_eq_none {b : UInt8} (hb : isBlank b = true ∨ b = slash ∨ b = star) :
    punctuation? b = none := by
  simp only [isBlank, Bool.or_eq_true, beq_iff_eq] at hb
  rcases hb with (((rfl | rfl) | rfl) | rfl) | rfl | rfl <;> decide

theorem isPunctuation_of_punctuation? {b : UInt8} {kind : TokenKind}
    (h : punctuation? b = some kind) : kind.isPunctuation = true := by
  have hkind := List.find?_some h
  simp only [TokenKind.isPunctuation]
  cases hk : kind.punctuation? with
  | none => simp [hk] at hkind
  | some c => rfl

theorem isWordByte_iff {b : UInt8} : isWordByte b = true ↔
    isBlank b = false ∧ b ≠ slash ∧ b ≠ star ∧ punctuation? b = none := by
  simp [isWordByte, and_assoc]

/-- A word is no end. -/
theorem classify_ne_eof (table : WordTable) (word : Text) : table.classify word ≠ .eof := by
  have hkeyword : ∀ entry ∈ keywords, entry.2 ≠ .eof := by decide
  unfold WordTable.classify
  split
  case h_1 kind hlookup =>
    rcases WordTable.lookup?_cases hlookup with ⟨entry, hentry, rfl⟩ | rfl
    · exact hkeyword entry hentry
    · decide
  case h_2 =>
    split
    · decide
    · split <;> decide

namespace Lexeme

variable {table : WordTable} {kind : TokenKind} {text rest : Text}

theorem ne_nil (h : Lexeme table kind text rest) : text ≠ [] := by
  cases h with
  | mark _ _ | lone _ _ => exact List.cons_ne_nil _ _
  | word hne _ _ => exact hne

theorem ne_eof (h : Lexeme table kind text rest) : kind ≠ .eof := by
  cases h with
  | mark rest hb =>
    rintro rfl
    exact absurd (isPunctuation_of_punctuation? hb) (by decide)
  | lone _ _ => decide
  | word _ _ _ => exact classify_ne_eof _ _

/-- No byte of a token is a blank. -/
theorem not_blank (h : Lexeme table kind text rest) : ∀ b ∈ text, isBlank b = false := by
  cases h with
  | mark rest hmark =>
    intro b hb
    rw [List.mem_singleton.mp hb]
    refine Bool.eq_false_iff.mpr fun hblank => ?_
    rw [punctuation?_eq_none (.inl hblank)] at hmark
    cases hmark
  | lone hlone _ =>
    intro b hb
    rw [List.mem_singleton.mp hb]
    rcases hlone with rfl | rfl <;> decide
  | word _ hword _ =>
    intro b hb
    exact (isWordByte_iff.mp (hword b hb)).1

theorem newline_not_mem (h : Lexeme table kind text rest) : newline ∉ text := by
  intro hmem
  exact absurd (h.not_blank newline hmem) (by decide)

/-- A token with a word byte is a word, and goes on as far as it may. -/
theorem word_of_mem (h : Lexeme table kind text rest) {b : UInt8} (hb : b ∈ text)
    (hword : isWordByte b = true) :
    (∀ c ∈ text, isWordByte c = true) ∧ ∀ c ∈ rest.head?, isWordByte c = false := by
  obtain ⟨-, hslash, hstar, hnone⟩ := isWordByte_iff.mp hword
  cases h with
  | mark rest hmark =>
    rw [List.mem_singleton.mp hb, hmark] at hnone
    cases hnone
  | lone hlone _ =>
    rw [List.mem_singleton.mp hb] at hslash hstar
    exact absurd hlone (not_or.mpr ⟨hslash, hstar⟩)
  | word _ hword hend => exact ⟨hword, hend⟩

/-- A token begins with neither a blank nor a comment. -/
theorem not_opensGap (h : Lexeme table kind text rest) : ¬ opensGap (text ++ rest) := by
  have hblank := h.not_blank
  cases h with
  | @mark b kind rest hmark =>
    rintro (hb | ⟨rfl, _⟩)
    · simp [hblank b (List.mem_singleton.mpr rfl)] at hb
    · exact absurd (punctuation?_eq_none (.inr (.inl rfl))) (by simp [hmark])
  | @lone b rest hlone hopen =>
    -- a slash is a token of its own only if it opens no comment
    rintro (hb | ⟨hslash, c, hc, hcomment⟩)
    · simp [hblank b (List.mem_singleton.mpr rfl)] at hb
    · have := hopen hslash c hc
      exact hcomment.elim this.1 this.2
  | word hne hword hend =>
    cases text with
    | nil => exact absurd rfl hne
    | cons b word =>
      have hb := isWordByte_iff.mp (hword b (List.mem_cons_self ..))
      rintro (hblank | ⟨hslash, _⟩)
      · simp [hb.1] at hblank
      · exact hb.2.1 hslash

/-- The token at the head of a text is cut off. -/
theorem lexeme_eq (h : Lexeme table kind text rest) :
    lexeme table (text ++ rest) = (kind, text) := by
  cases h with
  | mark rest hmark => simp [lexeme, hmark]
  | lone hlone _ => simp [lexeme, hlone, punctuation?_eq_none (.inr hlone)]
  | word hne hword hend =>
    cases text with
    | nil => exact absurd rfl hne
    | cons b word =>
      obtain ⟨-, hslash, hstar, hmark⟩ := isWordByte_iff.mp (hword b (List.mem_cons_self ..))
      have htake : (word ++ rest).takeWhile isWordByte = word := by
        rw [List.takeWhile_append_of_pos fun c hc => hword c (List.mem_cons_of_mem b hc)]
        cases rest with
        | nil => simp
        | cons c rest => simp [hend c rfl]
      simp [lexeme, hmark, hslash, hstar, htake]

end Lexeme

/-- A text that begins with no gap begins with a token. -/
theorem exists_lexeme (table : WordTable) {t : Text} (hne : t ≠ []) (h : ¬ opensGap t) :
    ∃ kind text rest, t = text ++ rest ∧ Lexeme table kind text rest := by
  cases t with
  | nil => exact absurd rfl hne
  | cons b t =>
    obtain ⟨hblank, hcomment⟩ := not_or.mp h
    cases hmark : punctuation? b with
    | some kind => exact ⟨kind, [b], t, rfl, .mark t hmark⟩
    | none =>
      by_cases hlone : b = slash ∨ b = star
      · -- a slash that opened a comment would open a gap
        refine ⟨.unknown, [b], t, rfl, .lone hlone fun hslash c hc => ?_⟩
        exact not_or.mp fun hopen => hcomment ⟨hslash, c, hc, hopen⟩
      · -- any other byte belongs to a word, which goes as far as it can
        obtain ⟨hslash, hstar⟩ := not_or.mp hlone
        have hb : isWordByte b = true :=
          isWordByte_iff.mpr ⟨by simpa using hblank, hslash, hstar, hmark⟩
        refine ⟨_, b :: t.takeWhile isWordByte, t.dropWhile isWordByte, ?_,
          .word (List.cons_ne_nil _ _) ?_ ?_⟩
        · rw [List.cons_append, List.takeWhile_append_dropWhile]
        · intro c hc
          rcases List.mem_cons.mp hc with rfl | hc
          · exact hb
          · exact List.all_eq_true.mp List.all_takeWhile c hc
        · intro c hc
          have := List.head?_dropWhile_not isWordByte t
          rw [hc] at this
          exact this

end Token

end AdtCompiler
