import AdtCompiler.Proofs.Acceptance
import AdtCompiler.Run.Inspect

/-!
# Reserved words only restrict the language

Two tables of reserved words cut a source into the same tokens; only the kinds of words may
differ. The kind of a word that neither of them reserves is the same, keywords keep their kind in
every table, and no rule of the grammar takes a reserved word. So a source that can be read with
both tables means the same, and a table with fewer reserved words reads more sources.

## Contents

- `WordTable.classify_congr`: how tables differ about a word
- `SourceFile.lexed_reclassify`: how they differ about the tokens of a file
- `Grammar.Deriv.not_mem_kinds`: what no rule mentions stands in no sentence
- `SourceFile.reserved_words_restrict`
-/

namespace AdtCompiler

open Token Grammar

/-! ## Words -/

namespace WordTable

variable {table other : WordTable} {word : Text}

/-- A word is reserved if the table lists it, unless it is a keyword. -/
theorem lookup?_eq_reserved_iff : table.lookup? word = some .reserved ↔
    word ∈ table.reserved ∧ keywords.find? (·.1 == word) = none := by
  have hkeyword : ∀ entry ∈ keywords, entry.2 ≠ .reserved := by decide
  unfold lookup?
  split
  case h_1 name kind hfound =>
    refine iff_of_false (fun h => ?_) (by simp [hfound])
    exact hkeyword _ (List.mem_of_find?_eq_some hfound) (Option.some.inj h)
  case h_2 hnone => simp [hnone]

/-- The reserved words of a table are those that it looks up as reserved. -/
theorem classify_eq_reserved_iff :
    table.classify word = .reserved ↔ table.lookup? word = some .reserved := by
  unfold classify
  split
  case h_1 kind hlookup => simp [hlookup]
  case h_2 hnone =>
    rw [hnone]
    refine iff_of_false ?_ nofun
    split
    · decide
    · split <;> decide

/-- Two tables agree about a word that neither of them reserves. -/
theorem classify_congr (h : table.classify word ≠ .reserved)
    (h' : other.classify word ≠ .reserved) : other.classify word = table.classify word := by
  rw [Ne, classify_eq_reserved_iff] at h h'
  have hlookup : other.lookup? word = table.lookup? word := by
    unfold lookup? at h h' ⊢
    -- a keyword is found before the reserved words are looked at
    cases hfound : keywords.find? (·.1 == word) with
    | some entry => rfl
    | none => simp_all
  rw [classify, classify, hlookup]

end WordTable

/-! ## Tokens -/

/-- The token with the kind that another table gives to its text. Marks are no words, and a table
has no say in them. -/
def Token.reclassify (table : WordTable) (t : Token) : Token :=
  if t.text.all isWordByte then { t with kind := table.classify t.text } else t

/-- Both tables cut off the same lexeme, and the kind changes only if it is a word. -/
theorem Token.Lexeme.reclassify {table : WordTable} {kind : TokenKind} {text rest : Text}
    (h : Lexeme table kind text rest) (other : WordTable) :
    Lexeme other (if text.all isWordByte then other.classify text else kind) text rest := by
  cases h with
  | @mark b kind rest hmark =>
    have hb : isWordByte b = false := by simp [isWordByte, hmark]
    simpa [hb] using Lexeme.mark rest hmark
  | @lone b rest hlone hopen =>
    have hb : isWordByte b = false := by rcases hlone with rfl | rfl <;> decide
    simpa [hb] using Lexeme.lone hlone hopen
  | word hne hword hend =>
    rw [if_pos (List.all_eq_true.mpr hword)]
    exact .word hne hword hend

/-- A token that stands in a file is the same but for its kind. -/
theorem SourceFile.reclassify_tokenBefore (file : SourceFile) (table : WordTable)
    (kind : TokenKind) (text rest : Text) :
    (file.tokenBefore kind text rest).reclassify table =
      file.tokenBefore (if text.all isWordByte then table.classify text else kind) text rest := by
  have htext : (file.tokenBefore kind text rest).text = text := rfl
  unfold Token.reclassify
  rw [htext]
  split <;> rfl

/-- Every table cuts a text at the same places. -/
theorem Scans.reclassify {file : SourceFile} {table : WordTable} {t : Text} {tokens : List Token}
    (h : Scans file table t tokens) (other : WordTable) :
    Scans file other t (tokens.map (Token.reclassify other)) := by
  induction h with
  | stop hgap => exact .stop hgap
  | step hgap hlexeme h ih =>
    rw [List.map_cons, file.reclassify_tokenBefore]
    exact .step hgap (hlexeme.reclassify other) ih

/-- The tokens of a file under one table are those under another, classified anew. -/
theorem SourceFile.lexed_reclassify (file : SourceFile) (table other : WordTable) :
    file.lexed other = (file.lexed table).map (Token.reclassify other) := by
  obtain ⟨tokens, hscan⟩ := exists_scans file table file.content
  rw [hscan.lexed_eq, (hscan.reclassify other).lexed_eq, List.map_append]
  -- the text of the end token begins with a mark
  rfl

/-- Classified anew by the table it comes from, a token stays what it is. -/
theorem SourceFile.reclassify_of_mem {file : SourceFile} {table : WordTable} {t : Token}
    (ht : t ∈ file.lexed table) : t.reclassify table = t := by
  have hmap : (file.lexed table).map (Token.reclassify table) =
      (file.lexed table).map fun t => t := by
    rw [← file.lexed_reclassify table table, List.map_id']
  exact List.map_inj_left.mp hmap t ht

/-- The kind of a word is the one that the table of its file gives to it. -/
theorem SourceFile.kind_of_word {file : SourceFile} {table : WordTable} {t : Token}
    (ht : t ∈ file.lexed table) (hword : t.text.all isWordByte = true) :
    t.kind = table.classify t.text := by
  have hself := reclassify_of_mem ht
  rw [Token.reclassify, if_pos hword] at hself
  exact (congrArg Token.kind hself).symm

/-- A token that is reserved under neither of two tables is the same under both. -/
theorem SourceFile.reclassify_eq_self {file : SourceFile} {table other : WordTable} {t : Token}
    (ht : t ∈ file.lexed table) (h : t.kind ≠ .reserved)
    (h' : (t.reclassify other).kind ≠ .reserved) : t.reclassify other = t := by
  unfold Token.reclassify at h' ⊢
  split
  case isFalse => rfl
  case isTrue hword =>
    rw [if_pos hword] at h'
    rw [kind_of_word ht hword] at h
    rw [WordTable.classify_congr h h', ← kind_of_word ht hword]

/-- A token that becomes reserved is a word that the new table reserves. -/
theorem SourceFile.kind_reclassify_ne_reserved {file : SourceFile} {table other : WordTable}
    {t : Token} (ht : t ∈ file.lexed table) (h : t.kind ≠ .reserved)
    (hsub : ∀ word, other.lookup? word = some .reserved → table.lookup? word = some .reserved) :
    (t.reclassify other).kind ≠ .reserved := by
  unfold Token.reclassify
  split
  case isFalse => exact h
  case isTrue hword =>
    rw [kind_of_word ht hword] at h
    intro hreserved
    apply h
    rw [WordTable.classify_eq_reserved_iff] at hreserved ⊢
    exact hsub _ hreserved

/-! ## Sentences -/

namespace Grammar

/-- Whether a form allows a token of a kind itself, not by way of a nonterminal. -/
def Form.mentions (k : TokenKind) : Form → Bool
  | .token kinds => kinds.contains k
  | .ref _ => false
  | .seq e f | .either e f => e.mentions k || f.mentions k
  | .opt e | .many e => e.mentions k

/-- A kind that neither the form nor any rule mentions is the kind of no leaf. -/
theorem Deriv.not_mem_kinds {τ : Type} {k : TokenKind} {e : Form} (d : Deriv τ e)
    (hrule : ∀ n, (rule n).mentions k = false) (he : e.mentions k = false) : k ∉ d.kinds := by
  induction d with
  | token kind mem payload =>
    simp only [Form.mentions, List.contains_eq_mem, decide_eq_false_iff_not] at he
    simp only [kinds, yield, List.map_cons, List.map_nil, List.mem_singleton]
    rintro rfl
    exact he mem
  | @ref n body ih => exact ih (hrule n)
  | seq a b iha ihb =>
    simp only [Form.mentions, Bool.or_eq_false_iff] at he
    rw [kinds_seq, List.mem_append, not_or]
    exact ⟨iha he.1, ihb he.2⟩
  | left a ih =>
    simp only [Form.mentions, Bool.or_eq_false_iff] at he
    exact ih he.1
  | right b ih =>
    simp only [Form.mentions, Bool.or_eq_false_iff] at he
    exact ih he.2
  | none | nil => exact List.not_mem_nil
  | some a ih => exact ih he
  | cons a as iha ihas =>
    -- the items before and the item itself are of the same form
    have hitem := iha he
    have hitems := ihas he
    simp only [kinds, yield, List.map_append, List.mem_append, not_or] at hitem hitems ⊢
    exact ⟨hitem, hitems⟩

end Grammar

/-- There is no reserved word in a source that can be read. -/
theorem SourceFile.kind_ne_reserved_of_parse {file : SourceFile} {table : WordTable} {doc : Doc}
    (h : file.parse table = .ok doc) : ∀ t ∈ file.lexed table, t.kind ≠ .reserved := by
  obtain ⟨-, d, hyield, -⟩ := parse_eq_ok_iff.mp h
  have hfree : TokenKind.reserved ∉ d.kinds :=
    d.not_mem_kinds (fun n => by cases n <;> rfl) rfl
  rw [← Parser.kinds_eq_of_spelled hyield.symm] at hfree
  intro t ht hkind
  exact hfree (hkind ▸ List.mem_map_of_mem ht)

/-- A source that can be read with one table means the same with every table that reserves none
of its words. -/
theorem SourceFile.parse_eq_ok_of_unreserved {file : SourceFile} {table other : WordTable}
    {doc : Doc} (h : file.parse table = .ok doc)
    (hfree : ∀ t ∈ file.lexed other, t.kind ≠ .reserved) : file.parse other = .ok doc := by
  have hunreserved := kind_ne_reserved_of_parse h
  rw [file.lexed_reclassify table other] at hfree
  have hlexed : file.lexed other = file.lexed table := by
    rw [file.lexed_reclassify table other]
    refine (List.map_congr_left fun t ht => ?_).trans (List.map_id _)
    exact reclassify_eq_self ht (hunreserved t ht) (hfree _ (List.mem_map_of_mem ht))
  obtain ⟨hsource, hother⟩ := parse_eq_ok_of_spelling (length_lt_of_parse h) (by rw [hlexed]) h
  rwa [← hsource] at hother

/-- A session reads a file with the table of its back end. -/
theorem Session.parse_eq_some {s : Session} {file : SourceFile} {bag bag' : Bag} {doc : Doc}
    (h : s.parse file bag = .ok (some doc, bag')) : file.parse s.backend.wordTable = .ok doc := by
  unfold Session.parse at h
  split at h
  case h_1 found hfound =>
    cases h
    exact hfound
  case h_2 => cases h
  case h_3 => cases h

/-! ## Two tables -/

/-- **Reserved words only restrict the language.** Two tables that both read a source read the same
document. A table that reserves no more than another reads all that the other one reads. So the
back end of a run may refuse a source, but it never changes what the source means. -/
theorem SourceFile.reserved_words_restrict (file : SourceFile) (table other : WordTable) :
    (∀ doc doc', file.parse table = .ok doc → file.parse other = .ok doc' → doc = doc') ∧
    ((∀ word, table.lookup? word = some .reserved → other.lookup? word = some .reserved) →
      ∀ doc, file.parse other = .ok doc → file.parse table = .ok doc) ∧
    (∀ (s s' : Session) (bag bag' after after' : Bag) (doc doc' : Doc),
      s.parse file bag = .ok (some doc, after) → s'.parse file bag' = .ok (some doc', after') →
      doc = doc') := by
  have hsame {table other : WordTable} {doc doc' : Doc} (h : file.parse table = .ok doc)
      (h' : file.parse other = .ok doc') : doc = doc' := by
    have hboth := parse_eq_ok_of_unreserved h (kind_ne_reserved_of_parse h')
    exact Except.ok.inj (hboth.symm.trans h')
  refine ⟨fun _ _ => hsame, fun hsub doc h => ?_, fun _ _ _ _ _ _ doc doc' h h' => ?_⟩
  · -- no token of the source is reserved by the larger table, so none is by the smaller one
    apply parse_eq_ok_of_unreserved h
    rw [file.lexed_reclassify other table]
    intro t ht
    obtain ⟨u, hu, rfl⟩ := List.mem_map.mp ht
    exact kind_reclassify_ne_reserved hu (kind_ne_reserved_of_parse h u hu) hsub
  · exact hsame (Session.parse_eq_some h) (Session.parse_eq_some h')

/-- A source with a field `func`. -/
def funcField : SourceFile :=
  { id := 0, path := "kw.adt", content := "Foo = Bar(int func)", flags := 0 }

/-- Where `class` and `int` are reserved it is read as it is where nothing is, because `int` stays
a keyword; where `func` is reserved it is refused. -/
theorem SourceFile.reserved_words_restrict_func :
    (∃ doc, funcField.parse ⟨["class", "int"]⟩ = .ok doc ∧ funcField.parse {} = .ok doc) ∧
      (funcField.parse ⟨["func"]⟩).isOk = false := by
  refine ⟨?_, by decide⟩
  have hreads : (funcField.parse ⟨["class", "int"]⟩).isOk = true := by decide
  cases h : funcField.parse ⟨["class", "int"]⟩ with
  | error e =>
    rw [h] at hreads
    cases hreads
  | ok doc =>
    have hrestrict := SourceFile.reserved_words_restrict funcField {} ⟨["class", "int"]⟩
    refine ⟨doc, rfl, hrestrict.2.1 (fun word hword => ?_) doc h⟩
    exact absurd (WordTable.lookup?_eq_reserved_iff.mp hword).1 List.not_mem_nil

end AdtCompiler
