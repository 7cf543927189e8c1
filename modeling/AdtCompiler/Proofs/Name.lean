import AdtCompiler.Proofs.Lexeme

/-!
# Names

A name is an identifier that is neither a keyword nor reserved; a path may also be a dotted
identifier. Names and paths are made of bytes that may stand in words, so the lexer takes one as a
single token of the right kind, and the words of these kinds are the names and the paths.

## Contents

- ASCII bytes of a text stand for themselves in its decoding
- identifiers are made of word bytes
- `WordTable.IsName` and `WordTable.IsPath`
-/

namespace AdtCompiler

/-! ## ASCII bytes in a decoding -/

namespace Text

theorem continues_of_scalarOf2? {a b : UInt8} {n : Nat} (h : scalarOf2? a b = some n) :
    isContinuation b = true := by
  unfold scalarOf2? at h
  split at h
  case isTrue hcond => exact hcond.2.2
  case isFalse => cases h

theorem continues_of_scalarOf3? {a b c : UInt8} {n : Nat} (h : scalarOf3? a b c = some n) :
    isContinuation b = true ∧ isContinuation c = true := by
  unfold scalarOf3? at h
  split at h
  case isTrue hcond => exact hcond.2.2
  case isFalse => cases h

theorem continues_of_scalarOf4? {a b c d : UInt8} {n : Nat} (h : scalarOf4? a b c d = some n) :
    isContinuation b = true ∧ isContinuation c = true ∧ isContinuation d = true := by
  unfold scalarOf4? at h
  split at h
  case isTrue hcond => exact hcond.2.2
  case isFalse => cases h

/-- The bytes of a scalar value behind the first are continuation bytes. -/
theorem continues_of_scalarAt? {a : UInt8} {t : Text} {n size : Nat}
    (h : scalarAt? (a :: t) = some (n, size)) :
    ∀ b ∈ t.take (size - 1), isContinuation b = true := by
  simp only [scalarAt?] at h
  split at h
  · cases h
    simp
  · split at h
    case h_1 b c d more =>
      simp only [Option.or_eq_some_iff, Option.map_eq_some_iff, Prod.mk.injEq] at h
      rcases h with ⟨m, hm, -, rfl⟩ | ⟨-, ⟨m, hm, -, rfl⟩ | ⟨-, m, hm, -, rfl⟩⟩
      · simpa using continues_of_scalarOf2? hm
      · simpa using continues_of_scalarOf3? hm
      · simpa using continues_of_scalarOf4? hm
    case h_2 b c =>
      simp only [Option.or_eq_some_iff, Option.map_eq_some_iff, Prod.mk.injEq] at h
      rcases h with ⟨m, hm, -, rfl⟩ | ⟨-, m, hm, -, rfl⟩
      · simpa using continues_of_scalarOf2? hm
      · simpa using continues_of_scalarOf3? hm
    case h_3 b =>
      simp only [Option.map_eq_some_iff, Prod.mk.injEq] at h
      obtain ⟨m, hm, -, rfl⟩ := h
      simpa using continues_of_scalarOf2? hm
    case h_4 => cases h

/-- An ASCII byte stands for itself: it is no continuation byte, so no unit read before takes it
along. -/
theorem scalar_mem_runesFrom {b : UInt8} (hb : b < 0x80) (skip : Nat) (t : Text)
    (hskip : ∀ c ∈ t.take skip, isContinuation c = true) (hmem : b ∈ t) :
    Rune.scalar b.toNat ∈ runesFrom skip t := by
  -- the bytes still to be skipped are continuation bytes, so `b` is not among them
  fun_induction runesFrom skip t with
  | case1 => cases hmem
  | case2 skip a t ih =>
    have ha : isContinuation a = true := hskip a (by simp)
    rcases List.mem_cons.mp hmem with rfl | hmem
    · simp only [isContinuation, Bool.and_eq_true, decide_eq_true_eq] at ha
      exact absurd ha.1 (UInt8.not_le.mpr hb)
    · exact ih (fun c hc => hskip c (by simp [hc])) hmem
  | case3 a t n size hscalar ih =>
    rcases List.mem_cons.mp hmem with rfl | hmem
    · simp only [scalarAt?, hb, if_true, Option.some.injEq, Prod.mk.injEq] at hscalar
      rw [hscalar.1]
      exact List.mem_cons_self
    · exact List.mem_cons_of_mem _ (ih (continues_of_scalarAt? hscalar) hmem)
  | case4 a t hscalar ih =>
    rcases List.mem_cons.mp hmem with rfl | hmem
    · simp [scalarAt?, hb] at hscalar
    · exact List.mem_cons_of_mem _ (ih (by simp) hmem)

theorem scalar_mem_runes {b : UInt8} {t : Text} (hb : b < 0x80) (hmem : b ∈ t) :
    Rune.scalar b.toNat ∈ t.runes :=
  scalar_mem_runesFrom hb 0 t (by simp) hmem

end Text

/-! ## Identifiers are words -/

/-- The bytes that may not stand in words. -/
def Token.delimiters : List UInt8 :=
  [32, 9, 10, 13, slash, star] ++ TokenKind.all.filterMap fun k => k.punctuation?.map Text.byte

theorem Token.mem_delimiters {b : UInt8} (h : isWordByte b = false) : b ∈ delimiters := by
  simp only [isWordByte, isBlank, Bool.not_eq_false', Bool.or_eq_true, beq_iff_eq,
    Option.isSome_iff_exists] at h
  rcases h with (((((rfl | rfl) | rfl) | rfl) | rfl) | rfl) | ⟨kind, hkind⟩
  any_goals decide
  -- a punctuation mark is the mark of some kind
  have hbyte := List.find?_some hkind
  cases hmark : kind.punctuation? with
  | none => simp [hmark] at hbyte
  | some c =>
    have hb : Text.byte c = b := by simpa [hmark] using hbyte
    refine List.mem_append_right _ (List.mem_filterMap.mpr ⟨kind, ?_, by simp [hmark, hb]⟩)
    exact List.mem_of_find?_eq_some hkind

/-- The ASCII letters and digits, the underscore and all bytes beyond ASCII may stand in words. -/
theorem Token.isWordByte_of_continues {b : UInt8}
    (h : b < 0x80 → continuesIdentifier (.scalar b.toNat) = true) : isWordByte b = true := by
  have hdelimiters : delimiters.all (fun c =>
      decide (c < 0x80) && !continuesIdentifier (.scalar c.toNat)) = true := by decide
  cases hb : isWordByte b with
  | true => rfl
  | false =>
    have hdelimiter := List.all_eq_true.mp hdelimiters b (mem_delimiters hb)
    simp only [Bool.and_eq_true, decide_eq_true_eq, Bool.not_eq_true'] at hdelimiter
    rw [h hdelimiter.1] at hdelimiter
    cases hdelimiter.2

/-- Every unit of an identifier may continue one. -/
theorem continues_of_isIdentifier {t : Text} (h : isIdentifier t = true) :
    ∀ r ∈ t.runes, continuesIdentifier r = true := by
  unfold isIdentifier at h
  split at h
  case h_1 => cases h
  case h_2 first rest heq =>
    rw [heq]
    simp only [Bool.and_eq_true, List.all_eq_true] at h
    intro r hr
    rcases List.mem_cons.mp hr with rfl | hr
    · -- what may begin an identifier may also continue it
      cases r with
      | scalar c =>
        have hfirst := h.1
        simp only [startsIdentifier, Bool.or_eq_true] at hfirst
        simp only [continuesIdentifier, Bool.or_eq_true]
        exact .inl hfirst
      | stray b => exact absurd h.1 (by simp [startsIdentifier])
    · exact h.2 r hr

/-- An identifier is made of word bytes. -/
theorem isWordByte_of_isIdentifier {t : Text} (h : isIdentifier t = true) :
    ∀ b ∈ t, Token.isWordByte b = true := by
  intro b hb
  refine Token.isWordByte_of_continues fun hascii => ?_
  exact continues_of_isIdentifier h _ (Text.scalar_mem_runes hascii hb)

theorem ne_nil_of_isIdentifier {t : Text} (h : isIdentifier t = true) : t ≠ [] := by
  rintro rfl
  exact absurd h (by decide)

/-- Every byte of a text is a separator or in one of the pieces between them. -/
theorem Text.mem_splitOn (sep : UInt8) {b : UInt8} {t : Text} (h : b ∈ t) :
    b = sep ∨ ∃ piece ∈ t.splitOn sep, b ∈ piece := by
  fun_induction Text.splitOn sep t with
  | case1 => cases h
  | case2 rest ih =>
    rcases List.mem_cons.mp h with rfl | h
    · exact .inl rfl
    · exact (ih h).imp_right fun ⟨piece, hpiece, hb⟩ => ⟨piece, List.mem_cons_of_mem _ hpiece, hb⟩
  | case3 c rest hc hnone ih =>
    -- there is always a piece, but the definition allows for none
    rcases List.mem_cons.mp h with rfl | h
    · exact .inr ⟨_, List.mem_cons_self, List.mem_cons_self⟩
    · exact .inl (by simpa [hnone] using ih h)
  | case4 c rest hc piece more hsplit ih =>
    rcases List.mem_cons.mp h with rfl | h
    · exact .inr ⟨_, List.mem_cons_self, List.mem_cons_self⟩
    · rw [hsplit] at ih
      refine (ih h).imp_right fun ⟨other, hother, hb⟩ => ?_
      rcases List.mem_cons.mp hother with rfl | hother
      · exact ⟨_, List.mem_cons_self, List.mem_cons_of_mem _ hb⟩
      · exact ⟨other, List.mem_cons_of_mem _ hother, hb⟩

/-- A dotted identifier is made of word bytes. -/
theorem isWordByte_of_isDottedIdentifier {t : Text} (h : isDottedIdentifier t = true) :
    ∀ b ∈ t, Token.isWordByte b = true := by
  simp only [isDottedIdentifier, Bool.and_eq_true, List.all_eq_true] at h
  intro b hb
  rcases Text.mem_splitOn 46 hb with rfl | ⟨piece, hpiece, hb⟩
  · decide
  · exact isWordByte_of_isIdentifier (h.2 piece hpiece) b hb

theorem ne_nil_of_isDottedIdentifier {t : Text} (h : isDottedIdentifier t = true) : t ≠ [] := by
  rintro rfl
  exact absurd h (by decide)

/-! ## Names and paths -/

namespace WordTable

/-- Whether a word may name something: an identifier that is no keyword and not reserved. -/
structure IsName (table : WordTable) (word : Text) : Prop where
  identifier : isIdentifier word = true
  free : table.lookup? word = none

/-- Whether a word may name a package or an import: a plain or dotted identifier that is no
keyword and not reserved. -/
structure IsPath (table : WordTable) (word : Text) : Prop where
  identifier : isIdentifier word = true ∨ isDottedIdentifier word = true
  free : table.lookup? word = none

instance (table : WordTable) (word : Text) : Decidable (table.IsName word) :=
  decidable_of_iff (isIdentifier word = true ∧ table.lookup? word = none)
    ⟨fun h => ⟨h.1, h.2⟩, fun h => ⟨h.identifier, h.free⟩⟩

instance (table : WordTable) (word : Text) : Decidable (table.IsPath word) :=
  decidable_of_iff
    ((isIdentifier word = true ∨ isDottedIdentifier word = true) ∧ table.lookup? word = none)
    ⟨fun h => ⟨h.1, h.2⟩, fun h => ⟨h.identifier, h.free⟩⟩

variable {table : WordTable} {word : Text}

theorem IsName.isPath (h : table.IsName word) : table.IsPath word := ⟨.inl h.identifier, h.free⟩

theorem IsPath.isWordByte (h : table.IsPath word) : ∀ b ∈ word, Token.isWordByte b = true := by
  rcases h.identifier with hplain | hdotted
  · exact isWordByte_of_isIdentifier hplain
  · exact isWordByte_of_isDottedIdentifier hdotted

theorem IsPath.ne_nil (h : table.IsPath word) : word ≠ [] := by
  rcases h.identifier with hplain | hdotted
  · exact ne_nil_of_isIdentifier hplain
  · exact ne_nil_of_isDottedIdentifier hdotted

/-- The kind of a word that the table knows is that of a keyword or of a reserved word. -/
theorem lookup?_kind {kind : TokenKind} (h : table.lookup? word = some kind) :
    kind ≠ .ident ∧ kind ≠ .dottedIdent := by
  have hkeyword : ∀ entry ∈ keywords, entry.2 ≠ .ident ∧ entry.2 ≠ .dottedIdent := by decide
  rcases lookup?_cases h with ⟨entry, hentry, rfl⟩ | rfl
  · exact hkeyword entry hentry
  · decide

/-- The words of kind `ident` are the names. -/
theorem classify_eq_ident_iff : table.classify word = .ident ↔ table.IsName word := by
  unfold classify
  split
  case h_1 kind hlookup =>
    refine iff_of_false (lookup?_kind hlookup).1 fun h => ?_
    rw [h.free] at hlookup
    cases hlookup
  case h_2 hfree =>
    split
    case isTrue hplain => exact iff_of_true rfl ⟨hplain, hfree⟩
    case isFalse hplain =>
      refine iff_of_false ?_ fun h => hplain h.identifier
      split <;> decide

/-- The words of kind `ident` or `dottedIdent` are the paths. -/
theorem classify_mem_iff :
    table.classify word = .ident ∨ table.classify word = .dottedIdent ↔ table.IsPath word := by
  unfold classify
  split
  case h_1 kind hlookup =>
    refine iff_of_false (not_or.mpr (lookup?_kind hlookup)) fun h => ?_
    rw [h.free] at hlookup
    cases hlookup
  case h_2 hfree =>
    split
    case isTrue hplain => exact iff_of_true (.inl rfl) ⟨.inl hplain, hfree⟩
    case isFalse hplain =>
      split
      case isTrue hdotted => exact iff_of_true (.inr rfl) ⟨.inr hdotted, hfree⟩
      case isFalse hdotted =>
        exact iff_of_false (by decide) fun h => h.identifier.elim hplain hdotted

end WordTable

end AdtCompiler
