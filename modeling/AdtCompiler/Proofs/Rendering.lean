import AdtCompiler.Proofs.Grammar
import AdtCompiler.Proofs.Name
import AdtCompiler.Proofs.Reading
import AdtCompiler.Proofs.Scanning

/-!
# Texts that render derivations

`Renders table ok e v t` says that the text `t` is cut into the leaves of a derivation of `e` which
describes `v`, whatever follows the text as long as it meets `ok`. A word must be followed by a byte
that may not stand in a word (`breaksWord`); behind a punctuation mark or a blank anything may
follow.

## Contents

- `Lexes`: a text before a rest is cut into given leaves
- `Renders` for tokens, sequences, choices and lists
- lists with separators, in brackets or not
-/

namespace AdtCompiler

open Token Grammar

/-! ## Leaves of a text -/

/-- Before a rest, a text is cut into tokens with the given kinds and texts. -/
def Lexes (table : WordTable) (t : Text) (leaves : List (TokenKind × Text)) (rest : Text) : Prop :=
  ∀ file tokens, Scans file table rest tokens →
    ∃ more, more.map Token.spelling = leaves ∧ Scans file table (t ++ rest) (more ++ tokens)

/-- A blank in front changes no token. -/
theorem Scans.blank {file : SourceFile} {table : WordTable} {t : Text} {tokens : List Token}
    {b : UInt8} (hb : isBlank b = true) (h : Scans file table t tokens) :
    Scans file table (b :: t) tokens := by
  cases h with
  | stop hgap => exact .stop (.blank hb hgap)
  | @step gap text rest kind tokens hgap hlexeme h =>
    rw [← List.cons_append]
    exact .step (.blank hb hgap) hlexeme h

namespace Lexes

variable {table : WordTable} {t u rest : Text} {leaves more : List (TokenKind × Text)}

theorem nil (table : WordTable) (rest : Text) : Lexes table [] [] rest :=
  fun _ _ h => ⟨[], rfl, h⟩

theorem append (h : Lexes table t leaves (u ++ rest)) (h' : Lexes table u more rest) :
    Lexes table (t ++ u) (leaves ++ more) rest := by
  intro file tokens hrest
  -- the rest is scanned from right to left: what stands behind decides where a word ends
  obtain ⟨second, hsecond, hscan⟩ := h' file tokens hrest
  obtain ⟨first, hfirst, hscan⟩ := h file _ hscan
  refine ⟨first ++ second, ?_, ?_⟩
  · rw [List.map_append, hfirst, hsecond]
  · rwa [List.append_assoc, List.append_assoc]

theorem blanks (ht : t.all isBlank = true) : Lexes table t [] rest := by
  intro file tokens hrest
  refine ⟨[], rfl, ?_⟩
  induction t with
  | nil => exact hrest
  | cons b t ih =>
    rw [List.all_cons, Bool.and_eq_true] at ht
    have hmore : Scans file table (t ++ rest) tokens := ih ht.2
    exact hmore.blank ht.1

theorem lexeme {kind : TokenKind} (h : Lexeme table kind t rest) :
    Lexes table t [(kind, t)] rest := by
  intro file tokens hrest
  exact ⟨[file.tokenBefore kind t rest], rfl, .step (.nil _) h hrest⟩

end Lexes

/-! ## What may follow -/

/-- A rest before which a word ends. -/
def breaksWord (rest : Text) : Prop := ∀ b ∈ rest.head?, isWordByte b = false

/-- Any rest. -/
abbrev anyRest (_ : Text) : Prop := True

theorem breaksWord_cons {b : UInt8} (hb : isWordByte b = false) (t : Text) :
    breaksWord (b :: t) := by
  intro c hc
  cases Option.mem_some.mp hc
  exact hb

/-! ## Lists at their ends -/

/-- A list of derivations with one more at its end. -/
def Grammar.Deriv.snoc {τ : Type} {e : Form} : Deriv τ (.many e) → Deriv τ e → Deriv τ (.many e)
  | .nil, last => .cons last .nil
  | .cons head tail, last => .cons head (tail.snoc last)

theorem Grammar.Deriv.yield_snoc {τ : Type} {e : Form} :
    (d : Deriv τ (.many e)) → (last : Deriv τ e) → (d.snoc last).yield = d.yield ++ last.yield
  | .nil, last => by simp [snoc, yield]
  | .cons head tail, last => by simp [snoc, yield, yield_snoc tail last]

theorem Grammar.Deriv.value_snoc {e : Form} :
    (d : Deriv Text (.many e)) → (last : Deriv Text e) →
      (d.snoc last).value = List.append d.value [last.value]
  | .nil, last => by
    simp only [snoc, value]
    rfl
  | .cons head tail, last => by
    simp only [snoc, value, value_snoc tail last]
    rfl

theorem Text.join_cons (sep t : Text) (ts : List Text) :
    Text.join sep (t :: ts) = t ++ ts.flatMap (sep ++ ·) := by
  induction ts generalizing t with
  | nil => simp [Text.join]
  | cons u ts ih => simp [Text.join, ih]

/-! ## Rendering forms -/

/-- A text is cut into the leaves of a derivation that describes a value. -/
def Renders (table : WordTable) (ok : Text → Prop) (e : Form) (v : Value e) (t : Text) : Prop :=
  ∃ d : Deriv Text e, d.value = v ∧ ∀ rest, ok rest → Lexes table t d.yield rest

namespace Renders

variable {table : WordTable} {ok ok' : Text → Prop} {e f : Form} {n : Nonterminal} {t u : Text}

theorem word {kinds : List TokenKind} {w : Text} (hmem : table.classify w ∈ kinds) (hne : w ≠ [])
    (hw : ∀ b ∈ w, isWordByte b = true) :
    Renders table breaksWord (.token kinds) (table.classify w, w) w :=
  ⟨.token _ hmem w, rfl, fun _ hrest => .lexeme (.word hne hw hrest)⟩

theorem mark {kinds : List TokenKind} {kind : TokenKind} {b : UInt8} (hmem : kind ∈ kinds)
    (hb : punctuation? b = some kind) :
    Renders table anyRest (.token kinds) (kind, [b]) [b] :=
  ⟨.token kind hmem [b], rfl, fun rest _ => .lexeme (.mark rest hb)⟩

theorem weaken {v : Value e} (h : Renders table ok e v t) (hok : ∀ rest, ok' rest → ok rest) :
    Renders table ok' e v t := by
  obtain ⟨d, hd, hlexes⟩ := h
  exact ⟨d, hd, fun rest hrest => hlexes rest (hok rest hrest)⟩

/-- Blanks may stand in front. -/
theorem blanks_before {v : Value e} (h : Renders table ok e v t) (hu : u.all isBlank = true) :
    Renders table ok e v (u ++ t) := by
  obtain ⟨d, hd, hlexes⟩ := h
  exact ⟨d, hd, fun rest hrest => (Lexes.blanks hu).append (hlexes rest hrest)⟩

/-- Behind blanks anything may follow. -/
theorem blanks_behind {v : Value e} (h : Renders table breaksWord e v t)
    (hu : u.all isBlank = true) (hne : u ≠ []) : Renders table anyRest e v (t ++ u) := by
  obtain ⟨d, hd, hlexes⟩ := h
  refine ⟨d, hd, fun rest _ => ?_⟩
  have hbreak : breaksWord (u ++ rest) := by
    cases u with
    | nil => exact absurd rfl hne
    | cons b u =>
      rw [List.all_cons, Bool.and_eq_true] at hu
      exact breaksWord_cons (by simp [isWordByte, hu.1]) _
  simpa using (hlexes (u ++ rest) hbreak).append (Lexes.blanks hu)

theorem ref {v : Value (rule n)} {meaning : Meaning n} (h : Renders table ok (rule n) v t)
    (hv : act n v = meaning) : Renders table ok (.ref n) meaning t := by
  obtain ⟨d, rfl, hlexes⟩ := h
  exact ⟨.ref d, hv, hlexes⟩

theorem seq {v : Value e} {w : Value f} (h : Renders table ok' e v t) (h' : Renders table ok f w u)
    (hok : ∀ rest, ok rest → ok' (u ++ rest)) :
    Renders table ok (.seq e f) (v, w) (t ++ u) := by
  obtain ⟨d, rfl, hlexes⟩ := h
  obtain ⟨d', rfl, hlexes'⟩ := h'
  exact ⟨.seq d d', rfl, fun rest hrest => (hlexes _ (hok rest hrest)).append (hlexes' rest hrest)⟩

theorem left {v : Value e} (h : Renders table ok e v t) :
    Renders table ok (.either e f) (.inl v) t := by
  obtain ⟨d, rfl, hlexes⟩ := h
  exact ⟨.left d, rfl, hlexes⟩

theorem right {v : Value f} (h : Renders table ok f v t) :
    Renders table ok (.either e f) (.inr v) t := by
  obtain ⟨d, rfl, hlexes⟩ := h
  exact ⟨.right d, rfl, hlexes⟩

theorem none : Renders table ok (.opt e) Option.none [] :=
  ⟨.none, rfl, fun rest _ => Lexes.nil table rest⟩

theorem some {v : Value e} (h : Renders table ok e v t) :
    Renders table ok (.opt e) (Option.some v) t := by
  obtain ⟨d, rfl, hlexes⟩ := h
  exact ⟨.some d, rfl, hlexes⟩

/-! ## Lists -/

theorem nil : Renders table ok (.many e) [] [] :=
  ⟨.nil, rfl, fun rest _ => Lexes.nil table rest⟩

theorem cons {v : Value e} {vs : List (Value e)} (h : Renders table ok' e v t)
    (h' : Renders table ok (.many e) vs u) (hok : ∀ rest, ok rest → ok' (u ++ rest)) :
    Renders table ok (.many e) (v :: vs) (t ++ u) := by
  obtain ⟨d, rfl, hlexes⟩ := h
  obtain ⟨d', rfl, hlexes'⟩ := h'
  exact ⟨.cons d d', rfl, fun rest hrest => (hlexes _ (hok rest hrest)).append (hlexes' rest hrest)⟩

/-- An empty list behind something has no text. -/
theorem seq_nil {v : Value e} (h : Renders table ok e v t) :
    Renders table ok (.seq e (.many f)) (v, []) t := by
  obtain ⟨d, rfl, hlexes⟩ := h
  refine ⟨.seq d .nil, rfl, fun rest hrest => ?_⟩
  simp only [Deriv.yield, List.append_nil]
  exact hlexes rest hrest

/-- The texts of the members of a list, one after another. -/
theorem flatMap {α : Type} {text : α → Text} {value : α → Value e} (xs : List α)
    (h : ∀ x ∈ xs, Renders table ok e (value x) (text x))
    (hok : ∀ x ∈ xs, ∀ rest, ok (text x ++ rest)) :
    Renders table ok (.many e) (xs.map value) (xs.flatMap text) := by
  induction xs with
  | nil => exact nil
  | cons x xs ih =>
    have hmore : Renders table ok (.many e) (xs.map value) (xs.flatMap text) :=
      ih (fun y hy => h y (List.mem_cons_of_mem x hy)) fun y hy => hok y (List.mem_cons_of_mem x hy)
    rw [List.map_cons, List.flatMap_cons]
    refine cons (h x List.mem_cons_self) hmore fun rest hrest => ?_
    -- a member is followed by the next one, or by what follows the list
    cases xs with
    | nil => exact hrest
    | cons y ys =>
      rw [List.flatMap_cons, List.append_assoc]
      exact hok y (by simp) _

/-- A list that stands behind something grows at its end. -/
theorem snoc {v : Value e} {ws : List (Value f)} {w : Value f}
    (h : Renders table ok' (.seq e (.many f)) (v, ws) t) (h' : Renders table ok f w u)
    (hok : ∀ rest, ok rest → ok' (u ++ rest)) :
    Renders table ok (.seq e (.many f)) (v, ws ++ [w]) (t ++ u) := by
  obtain ⟨d, hd, hlexes⟩ := h
  obtain ⟨d', rfl, hlexes'⟩ := h'
  -- only a sequence derives this form, so the list in it can be taken out and put back longer
  cases d with
  | seq first many =>
    obtain ⟨rfl, rfl⟩ := Prod.mk.inj hd
    refine ⟨.seq first (many.snoc d'), ?_, fun rest hrest => ?_⟩
    · exact congrArg (first.value, ·) (many.value_snoc d')
    · simp only [Deriv.yield, Deriv.yield_snoc, ← List.append_assoc]
      exact (hlexes _ (hok rest hrest)).append (hlexes' rest hrest)

/-- Items with commas between them. -/
theorem separated {α : Type} {text : α → Text} {value : α → Value e} (x : α) (xs : List α)
    (h : ∀ y ∈ x :: xs, Renders table breaksWord e (value y) (text y)) :
    Renders table breaksWord (.separated .comma e)
      (value x, xs.map fun y => ((.comma, [44]), value y))
      (Text.join ", " ((x :: xs).map text)) := by
  rw [List.map_cons, Text.join_cons, List.flatMap_map]
  have hmore : Renders table breaksWord (.many (.seq (.one .comma) e))
      (xs.map fun y => ((.comma, [44]), value y))
      (xs.flatMap fun y => [44] ++ ([32] ++ text y)) := by
    refine flatMap xs (fun y hy => ?_) fun y _ rest => ?_
    · refine seq (mark (by simp) (by decide)) ?_ fun _ _ => trivial
      exact (h y (List.mem_cons_of_mem x hy)).blanks_before (by decide)
    · exact breaksWord_cons (by decide) _
  refine seq (h x List.mem_cons_self) hmore fun rest hrest => ?_
  -- the first item is followed by a comma, or by what follows the list
  cases xs with
  | nil => exact hrest
  | cons y ys => exact breaksWord_cons (by decide) _

end Renders

/-! ## Lists in brackets -/

/-- Texts with commas between them in brackets, or nothing if there are none. -/
def enclosedText (opening closing : UInt8) (texts : List Text) : Text :=
  if texts.isEmpty then [] else [opening] ++ (Text.join ", " texts ++ [closing])

/-- A list in brackets ends a word before it. -/
theorem breaksWord_enclosedText {opening : UInt8} (ho : isWordByte opening = false)
    (closing : UInt8) (texts : List Text) (rest : Text) (hrest : breaksWord rest) :
    breaksWord (enclosedText opening closing texts ++ rest) := by
  unfold enclosedText
  split
  · exact hrest
  · exact breaksWord_cons ho _

/-- An optional list of items in brackets. -/
theorem renders_enclosed {table : WordTable} (ok : Text → Prop) {e : Form} {α : Type}
    {text : α → Text} {value : α → Value e} {opening closing : TokenKind} {o c : UInt8}
    (ho : punctuation? o = some opening) (hc : punctuation? c = some closing) (xs : List α)
    (h : ∀ y ∈ xs, Renders table breaksWord e (value y) (text y)) :
    ∃ v : Option ((TokenKind × Text) × (Value e × List ((TokenKind × Text) × Value e)) ×
        (TokenKind × Text)),
      enclosedItems v = xs.map value ∧
      Renders table ok (.opt (.between opening (.separated .comma e) closing)) v
        (enclosedText o c (xs.map text)) := by
  cases xs with
  | nil => exact ⟨Option.none, rfl, Renders.none⟩
  | cons x xs =>
    have hclosing : isWordByte c = false := by simp [isWordByte, hc]
    refine ⟨Option.some ((opening, [o]), (value x, xs.map fun y => ((.comma, [44]), value y)),
      (closing, [c])), by simp [enclosedItems, itemsOf], ?_⟩
    have hlast : Renders table ok (.one closing) (closing, [c]) [c] :=
      (Renders.mark (by simp) hc).weaken fun _ _ => trivial
    refine Renders.some (Renders.seq (Renders.mark (by simp) ho) ?_ fun _ _ => trivial)
    exact Renders.seq (Renders.separated x xs h) hlast fun rest _ => breaksWord_cons hclosing rest

end AdtCompiler
