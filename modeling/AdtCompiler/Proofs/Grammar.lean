import AdtCompiler.Syntax.Parser

/-!
# The grammar of descriptions

The grammar of the description language as data, its derivation trees, and what a derivation
means. The reader is compared with this grammar elsewhere; nothing here mentions the reader.

    Doc      := [ "package" Name ] { "import" Name } { DataType } EOF
    DataType := Ident [ "<" Ident { "," Ident } ">" ] "=" Ctor { "|" Ctor }
    Ctor     := Ident [ "(" Arg { "," Arg } ")" ]
    Arg      := Type Ident
    Type     := ( Primitive | Ident [ "<" Type { "," Type } ">" ] ) { "[" "]" }
    Name     := Ident | DottedIdent

The main result is that one token of lookahead decides every choice, so that a derivation is
determined by the kinds of its tokens (`Deriv.unique`).
-/

namespace AdtCompiler.Grammar

/-! ## Rules -/

/-- The nonterminals. -/
inductive Nonterminal where
  | doc
  | dataType
  | ctor
  | arg
  | type
  | name
deriving Repr, DecidableEq

/-- A right-hand side in extended form. -/
inductive Form where
  /-- One token of one of the given kinds. -/
  | token (kinds : List TokenKind)
  | ref (n : Nonterminal)
  | seq (first second : Form)
  | either (left right : Form)
  | opt (form : Form)
  | many (form : Form)
deriving Repr, DecidableEq

/-- The keywords of the primitive types with the types they name. -/
def primitiveKeywords : List (TokenKind × Primitive) :=
  [(.kwBoolean, .boolean), (.kwByte, .byte), (.kwChar, .char), (.kwDouble, .double),
    (.kwFloat, .float), (.kwInt, .int), (.kwLong, .long), (.kwShort, .short)]

namespace Form

/-- One token of a primitive type. -/
abbrev primitive : Form := .token (primitiveKeywords.map (·.1))

/-- One token of a kind. -/
abbrev one (kind : TokenKind) : Form := .token [kind]

/-- One or more forms with separators between them. -/
abbrev separated (separator : TokenKind) (form : Form) : Form :=
  .seq form (.many (.seq (one separator) form))

/-- A form between two tokens. -/
abbrev between (opening : TokenKind) (form : Form) (closing : TokenKind) : Form :=
  .seq (one opening) (.seq form (one closing))

end Form

open Form in
/-- What stands before the end of a document. -/
abbrev docBody : Form :=
  .seq (.opt (.seq (one .kwPackage) (.ref .name)))
    (.seq (.many (.seq (one .kwImport) (.ref .name))) (.many (.ref .dataType)))

open Form in
/-- What stands before the brackets of a type. -/
abbrev element : Form :=
  .either primitive
    (.seq (one .ident) (.opt (between .lAngle (separated .comma (.ref .type)) .rAngle)))

open Form in
/-- The rules of the grammar. -/
def rule : Nonterminal → Form
  | .doc => .seq docBody (one .eof)
  | .dataType =>
    .seq (one .ident) (.seq (.opt (between .lAngle (separated .comma (one .ident)) .rAngle))
      (.seq (one .equals) (separated .bar (.ref .ctor))))
  | .ctor => .seq (one .ident) (.opt (between .lParen (separated .comma (.ref .arg)) .rParen))
  | .arg => .seq (.ref .type) (one .ident)
  | .type => .seq element (.many (.seq (one .lBracket) (one .rBracket)))
  | .name => .either (one .ident) (one .dottedIdent)

/-! ## Derivations -/

/-- A derivation tree. Every leaf is a token: its kind, which the form allows there, and a
payload, such as its text. -/
inductive Deriv (τ : Type) : Form → Type where
  | token {kinds : List TokenKind} (kind : TokenKind) (mem : kind ∈ kinds) (payload : τ) :
      Deriv τ (.token kinds)
  | ref {n : Nonterminal} (body : Deriv τ (rule n)) : Deriv τ (.ref n)
  | seq {e f : Form} (first : Deriv τ e) (second : Deriv τ f) : Deriv τ (.seq e f)
  | left {e f : Form} (choice : Deriv τ e) : Deriv τ (.either e f)
  | right {e f : Form} (choice : Deriv τ f) : Deriv τ (.either e f)
  | none {e : Form} : Deriv τ (.opt e)
  | some {e : Form} (body : Deriv τ e) : Deriv τ (.opt e)
  | nil {e : Form} : Deriv τ (.many e)
  | cons {e : Form} (head : Deriv τ e) (tail : Deriv τ (.many e)) : Deriv τ (.many e)

namespace Deriv

variable {τ σ : Type} {e f : Form} {n : Nonterminal}

/-- The leaves from left to right. -/
def yield {τ : Type} : {e : Form} → Deriv τ e → List (TokenKind × τ)
  | _, .token kind _ payload => [(kind, payload)]
  | _, .ref body => body.yield
  | _, .seq a b => a.yield ++ b.yield
  | _, .left a => a.yield
  | _, .right b => b.yield
  | _, .none => []
  | _, .some a => a.yield
  | _, .nil => []
  | _, .cons a as => a.yield ++ as.yield

/-- The kinds of the leaves from left to right. -/
def kinds (d : Deriv τ e) : List TokenKind := d.yield.map (·.1)

/-- The same derivation with other payloads. -/
def map {τ σ : Type} (g : τ → σ) : {e : Form} → Deriv τ e → Deriv σ e
  | _, .token kind mem payload => .token kind mem (g payload)
  | _, .ref body => .ref (body.map g)
  | _, .seq a b => .seq (a.map g) (b.map g)
  | _, .left a => .left (a.map g)
  | _, .right b => .right (b.map g)
  | _, .none => .none
  | _, .some a => .some (a.map g)
  | _, .nil => .nil
  | _, .cons a as => .cons (a.map g) (as.map g)

theorem yield_map (g : τ → σ) (d : Deriv τ e) :
    (d.map g).yield = d.yield.map fun leaf => (leaf.1, g leaf.2) := by
  induction d with
  | token => rfl
  | ref body ih => exact ih
  | seq a b iha ihb => simp [map, yield, iha, ihb]
  | left a ih => exact ih
  | right b ih => exact ih
  | none => rfl
  | some a ih => exact ih
  | nil => rfl
  | cons a as iha ihas => simp [map, yield, iha, ihas]

@[simp] theorem kinds_map (g : τ → σ) (d : Deriv τ e) : (d.map g).kinds = d.kinds := by
  simp [kinds, yield_map]

@[simp] theorem kinds_seq (a : Deriv τ e) (b : Deriv τ f) :
    (Deriv.seq a b).kinds = a.kinds ++ b.kinds := by
  simp [kinds, yield]

end Deriv

/-! ## Lookahead

What one token of lookahead can tell: the kinds a form may begin with, and the kinds that may
stand behind a derivation although a longer derivation would take them. The grammar is
deterministic when no choice meets the same kind on both sides. -/

/-- The kinds that a nonterminal may begin with. -/
def firstOf : Nonterminal → List TokenKind
  | .doc => [.kwPackage, .kwImport, .ident, .eof]
  | .dataType => [.ident]
  | .ctor => [.ident]
  | .arg => .ident :: primitiveKeywords.map (·.1)
  | .type => .ident :: primitiveKeywords.map (·.1)
  | .name => [.ident, .dottedIdent]

/-- The kinds that may lengthen a derivation of a nonterminal. -/
def trailOf : Nonterminal → List TokenKind
  | .doc => []
  | .dataType => [.bar, .lParen]
  | .ctor => [.lParen]
  | .arg => []
  | .type => [.lBracket, .lAngle]
  | .name => []

namespace Form

/-- Whether a form may derive nothing; no nonterminal does. -/
def nullable : Form → Bool
  | .token _ | .ref _ => false
  | .seq e f => e.nullable && f.nullable
  | .either e f => e.nullable || f.nullable
  | .opt _ | .many _ => true

/-- The kinds that a form may begin with. -/
def first : Form → List TokenKind
  | .token kinds => kinds
  | .ref n => firstOf n
  | .seq e f => if e.nullable then e.first ++ f.first else e.first
  | .either e f => e.first ++ f.first
  | .opt e | .many e => e.first

@[simp] theorem first_one_seq (kind : TokenKind) (f : Form) :
    (Form.seq (one kind) f).first = [kind] := rfl

/-- The kinds that may lengthen a derivation of a form. -/
def trail : Form → List TokenKind
  | .token _ => []
  | .ref n => trailOf n
  | .seq e f => if f.nullable then e.trail ++ f.trail else f.trail
  | .either e f => e.trail ++ f.trail
  | .opt e | .many e => e.first ++ e.trail

/-- Whether two lists of kinds have no member in common. -/
def apart (ks ls : List TokenKind) : Bool := ks.all fun k => !ls.contains k

/-- Whether one token of lookahead decides every choice within a form. -/
def deterministic : Form → Bool
  | .token _ | .ref _ => true
  | .seq e f => e.deterministic && f.deterministic && apart e.trail f.first
  | .either e f =>
    e.deterministic && f.deterministic && !e.nullable && !f.nullable && apart e.first f.first
  | .opt e => e.deterministic && !e.nullable
  | .many e => e.deterministic && !e.nullable && apart e.trail e.first

theorem not_mem_of_apart {ks ls : List TokenKind} (h : apart ks ls) {k : TokenKind} (hk : k ∈ ks) :
    k ∉ ls := by
  simp only [apart, List.all_eq_true, Bool.not_eq_true', List.contains_eq_mem,
    decide_eq_false_iff_not] at h
  exact h k hk

/-- A list is deterministic when its items are and no item is lengthened by the separator. -/
theorem deterministic_separated {e : Form} {separator : TokenKind} (he : e.deterministic)
    (hnull : e.nullable = false) (hapart : apart e.trail [separator]) :
    (separated separator e).deterministic := by
  have htrail : (Form.seq (one separator) e).trail = e.trail := by simp [trail, hnull]
  have hone : apart (one separator).trail e.first = true := rfl
  simp [deterministic, first, nullable, he, htrail, hone, hapart]

end Form

/-- The tables of the nonterminals agree with their rules, and every rule is deterministic. -/
theorem rule_checked (n : Nonterminal) :
    (rule n).nullable = false ∧ (rule n).first ⊆ firstOf n ∧ (rule n).trail ⊆ trailOf n ∧
      (rule n).deterministic = true := by
  cases n <;> decide

namespace Deriv

variable {τ σ : Type} {e f : Form} {n : Nonterminal}

/-- Whether a longer derivation of the same form would take a token of kind `k` next. -/
def Lengthens {τ : Type} (k : TokenKind) : {e : Form} → Deriv τ e → Prop
  | _, .token _ _ _ => False
  | _, .ref body => body.Lengthens k
  | _, .seq a b => b.Lengthens k ∨ (b.yield = [] ∧ a.Lengthens k)
  | _, .left a => a.Lengthens k
  | _, .right b => b.Lengthens k
  | _, .none (e := e) => k ∈ e.first
  | _, .some a => a.Lengthens k
  | _, .nil (e := e) => k ∈ e.first
  | _, .cons a as => as.Lengthens k ∨ (as.yield = [] ∧ a.Lengthens k)

/-- A form that is not nullable derives at least one token. -/
theorem yield_ne_nil (d : Deriv τ e) (h : e.nullable = false) : d.yield ≠ [] := by
  induction d with
  | token => simp [yield]
  | @ref n body ih => exact ih (rule_checked n).1
  | seq a b iha ihb =>
    simp only [Form.nullable, Bool.and_eq_false_iff] at h
    rcases h with h | h
    · simp [yield, iha h]
    · simp [yield, ihb h]
  | left a ih =>
    simp only [Form.nullable, Bool.or_eq_false_iff] at h
    exact ih h.1
  | right b ih =>
    simp only [Form.nullable, Bool.or_eq_false_iff] at h
    exact ih h.2
  | none | some | nil | cons => simp [Form.nullable] at h

/-- A derivation begins with a kind that its form may begin with. -/
theorem mem_first {k : TokenKind} {x : τ} {rest : List (TokenKind × τ)} (d : Deriv τ e)
    (h : d.yield = (k, x) :: rest) : k ∈ e.first := by
  induction d generalizing rest with
  | token kind mem payload =>
    simp only [yield, List.cons.injEq, Prod.mk.injEq] at h
    exact h.1.1 ▸ mem
  | @ref n body ih => exact (rule_checked n).2.1 (ih h)
  | @seq e f a b iha ihb =>
    cases ha : a.yield with
    | nil =>
      -- the first part is empty, so the form looks past it
      have hnull : e.nullable = true := by
        cases he : e.nullable with
        | true => rfl
        | false => exact absurd ha (a.yield_ne_nil he)
      simp only [yield, ha, List.nil_append] at h
      simp [Form.first, hnull, ihb h]
    | cons leaf more =>
      simp only [yield, ha, List.cons_append, List.cons.injEq] at h
      have hmem : k ∈ e.first := iha (h.1 ▸ ha)
      cases he : e.nullable <;> simp [Form.first, he, hmem]
  | left a ih => simp [Form.first, ih h]
  | right b ih => simp [Form.first, ih h]
  | none | nil => simp [yield] at h
  | some a ih => exact ih h
  | @cons e a as iha ihas =>
    cases ha : a.yield with
    | nil =>
      simp only [yield, ha, List.nil_append] at h
      exact ihas h
    | cons leaf more =>
      simp only [yield, ha, List.cons_append, List.cons.injEq] at h
      exact iha (h.1 ▸ ha)

/-- What may lengthen a derivation is listed for its form. -/
theorem mem_trail {k : TokenKind} (d : Deriv τ e) (h : d.Lengthens k) : k ∈ e.trail := by
  induction d with
  | token => exact h.elim
  | @ref n body ih => exact (rule_checked n).2.2.1 (ih h)
  | @seq e f a b iha ihb =>
    rcases h with h | ⟨hb, h⟩
    · cases hf : f.nullable <;> simp [Form.trail, hf, ihb h]
    · -- the second part is empty, so its form allows that
      have hnull : f.nullable = true := by
        cases hf : f.nullable with
        | true => rfl
        | false => exact absurd hb (b.yield_ne_nil hf)
      simp [Form.trail, hnull, iha h]
  | left a ih => simp [Form.trail, ih h]
  | right b ih => simp [Form.trail, ih h]
  | none | nil => exact List.mem_append_left _ h
  | some a ih => exact List.mem_append_right _ (ih h)
  | cons a as iha ihas =>
    rcases h with h | ⟨-, h⟩
    · exact ihas h
    · exact List.mem_append_right _ (iha h)

/-! ## Uniqueness -/

/-- Whether a derivation may end before tokens of the kinds `u`: the next one does not lengthen
it. -/
def Ends (d : Deriv τ e) (u : List TokenKind) : Prop := ∀ k ∈ u.head?, ¬ d.Lengthens k

/-- A derivation may end before another one that follows it in a deterministic sequence. -/
theorem ends_append {a : Deriv τ e} {b : Deriv τ f} {u : List TokenKind}
    (hapart : Form.apart e.trail f.first) (hu : b.yield = [] → a.Ends u) :
    a.Ends (b.kinds ++ u) := by
  cases hb : b.yield with
  | nil => simpa [kinds, hb] using hu hb
  | cons leaf more =>
    intro k hk hlen
    have hk : leaf.1 = k := by simpa [kinds, hb] using hk
    have hfirst : leaf.1 ∈ f.first := b.mem_first hb
    exact Form.not_mem_of_apart hapart (a.mem_trail hlen) (hk ▸ hfirst)

theorem Ends.of_seq_first {a : Deriv τ e} {b : Deriv τ f} {u : List TokenKind}
    (h : (Deriv.seq a b).Ends u) (hapart : Form.apart e.trail f.first) : a.Ends (b.kinds ++ u) :=
  ends_append hapart fun hb k hk hlen => h k hk (.inr ⟨hb, hlen⟩)

theorem Ends.of_seq_second {a : Deriv τ e} {b : Deriv τ f} {u : List TokenKind}
    (h : (Deriv.seq a b).Ends u) : b.Ends u :=
  fun k hk hlen => h k hk (.inl hlen)

theorem Ends.of_cons_head {a : Deriv τ e} {as : Deriv τ (.many e)} {u : List TokenKind}
    (h : (Deriv.cons a as).Ends u) (hapart : Form.apart e.trail e.first) :
    a.Ends (as.kinds ++ u) :=
  ends_append (f := .many e) hapart fun has k hk hlen => h k hk (.inr ⟨has, hlen⟩)

theorem Ends.of_cons_tail {a : Deriv τ e} {as : Deriv τ (.many e)} {u : List TokenKind}
    (h : (Deriv.cons a as).Ends u) : as.Ends u :=
  fun k hk hlen => h k hk (.inl hlen)

/-- Nothing that may follow an empty derivation begins like a derivation of the form. -/
private theorem yield_append_ne {d : Deriv τ e} (hnull : e.nullable = false)
    {u v : List (TokenKind × τ)} (hu : ∀ k ∈ (u.map (·.1)).head?, k ∉ e.first) :
    u ≠ d.yield ++ v := by
  rintro rfl
  cases hd : d.yield with
  | nil => exact d.yield_ne_nil hnull hd
  | cons leaf more => exact hu leaf.1 (by simp [hd]) (d.mem_first hd)

/-- Derivations of two forms that begin with different kinds yield different tokens. -/
private theorem yield_append_ne_of_apart {a : Deriv τ e} {b : Deriv τ f}
    (hna : e.nullable = false) (hnb : f.nullable = false) (hapart : Form.apart e.first f.first)
    {u v : List (TokenKind × τ)} : a.yield ++ u ≠ b.yield ++ v := by
  refine yield_append_ne hnb fun k hk => ?_
  cases ha : a.yield with
  | nil => exact absurd ha (a.yield_ne_nil hna)
  | cons leaf more =>
    have hk : leaf.1 = k := by simpa [ha] using hk
    exact Form.not_mem_of_apart hapart (hk ▸ a.mem_first ha)

/-- **One token of lookahead decides**: two derivations of a deterministic form that begin the
same tokens, each of them ended by what follows it, are the same derivation. -/
theorem unique (he : e.deterministic = true) {d d' : Deriv τ e} {u u' : List (TokenKind × τ)}
    (hu : d.Ends (u.map (·.1))) (hu' : d'.Ends (u'.map (·.1)))
    (h : d.yield ++ u = d'.yield ++ u') : d = d' ∧ u = u' := by
  -- the rests vary: what follows the first part of a sequence is its second part and the rest
  induction d generalizing u u' with
  | token kind mem payload =>
    cases d' with
    | token kind' mem' payload' => simpa [yield, and_assoc] using h
  | @ref n body ih =>
    cases d' with
    | ref body' =>
      obtain ⟨rfl, rest⟩ := ih (rule_checked n).2.2.2 hu hu' h
      exact ⟨rfl, rest⟩
  | seq a b iha ihb =>
    cases d' with
    | seq a' b' =>
      simp only [Form.deterministic, Bool.and_eq_true] at he
      obtain ⟨⟨hea, heb⟩, hapart⟩ := he
      simp only [yield, List.append_assoc] at h
      obtain ⟨rfl, hrest⟩ := iha hea (by simpa [kinds] using hu.of_seq_first hapart)
        (by simpa [kinds] using hu'.of_seq_first hapart) h
      obtain ⟨rfl, hend⟩ := ihb heb hu.of_seq_second hu'.of_seq_second hrest
      exact ⟨rfl, hend⟩
  | left a ih =>
    simp only [Form.deterministic, Bool.and_eq_true, Bool.not_eq_true'] at he
    obtain ⟨⟨⟨⟨hea, heb⟩, hna⟩, hnb⟩, hapart⟩ := he
    cases d' with
    | left a' =>
      obtain ⟨rfl, hrest⟩ := ih hea hu hu' h
      exact ⟨rfl, hrest⟩
    | right b' =>
      -- the first token tells the two sides apart
      exact absurd h (yield_append_ne_of_apart hna hnb hapart)
  | right b ih =>
    simp only [Form.deterministic, Bool.and_eq_true, Bool.not_eq_true'] at he
    obtain ⟨⟨⟨⟨hea, heb⟩, hna⟩, hnb⟩, hapart⟩ := he
    cases d' with
    | right b' =>
      obtain ⟨rfl, hrest⟩ := ih heb hu hu' h
      exact ⟨rfl, hrest⟩
    | left a' => exact absurd h.symm (yield_append_ne_of_apart hna hnb hapart)
  | none =>
    simp only [Form.deterministic, Bool.and_eq_true, Bool.not_eq_true'] at he
    cases d' with
    | none => exact ⟨rfl, h⟩
    | some a' =>
      -- a token that `d'` takes would have lengthened `d`
      exact absurd h (yield_append_ne he.2 hu)
  | some a ih =>
    simp only [Form.deterministic, Bool.and_eq_true, Bool.not_eq_true'] at he
    cases d' with
    | none => exact absurd h.symm (yield_append_ne he.2 hu')
    | some a' =>
      obtain ⟨rfl, hrest⟩ := ih he.1 hu hu' h
      exact ⟨rfl, hrest⟩
  | nil =>
    simp only [Form.deterministic, Bool.and_eq_true, Bool.not_eq_true'] at he
    cases d' with
    | nil => exact ⟨rfl, h⟩
    | cons a' as' =>
      simp only [yield, List.nil_append, List.append_assoc] at h
      exact absurd h (yield_append_ne he.1.2 hu)
  | cons a as iha ihas =>
    have hmany := he
    simp only [Form.deterministic, Bool.and_eq_true, Bool.not_eq_true'] at he
    cases d' with
    | nil =>
      simp only [yield, List.nil_append, List.append_assoc] at h
      exact absurd h.symm (yield_append_ne he.1.2 hu')
    | cons a' as' =>
      simp only [yield, List.append_assoc] at h
      obtain ⟨rfl, hrest⟩ := iha he.1.1 (by simpa [kinds] using hu.of_cons_head he.2)
        (by simpa [kinds] using hu'.of_cons_head he.2) h
      obtain ⟨rfl, hend⟩ := ihas hmany hu.of_cons_tail hu'.of_cons_tail hrest
      exact ⟨rfl, hend⟩

/-- A sequence of tokens has at most one derivation. -/
theorem eq_of_yield_eq (he : e.deterministic = true) {d d' : Deriv τ e}
    (h : d.yield = d'.yield) : d = d' :=
  (@unique τ e he d d' [] [] (by simp [Ends]) (by simp [Ends]) (by rw [h])).1

/-! ## Derivations of kinds

Payloads play no part in what a derivation may end before, so the kinds alone tell where one
derivation ends and the next begins. -/

theorem lengthens_map (g : τ → σ) (d : Deriv τ e) (k : TokenKind) :
    (d.map g).Lengthens k ↔ d.Lengthens k := by
  induction d with
  | token => exact Iff.rfl
  | ref body ih => exact ih
  | seq a b iha ihb => simp only [map, Lengthens, iha, ihb, yield_map, List.map_eq_nil_iff]
  | left a ih => exact ih
  | right b ih => exact ih
  | none => exact Iff.rfl
  | some a ih => exact ih
  | nil => exact Iff.rfl
  | cons a as iha ihas => simp only [map, Lengthens, iha, ihas, yield_map, List.map_eq_nil_iff]

/-- Two derivations with the same kinds, up to what follows, have the same shape. -/
theorem unique_kinds (he : e.deterministic = true) {d : Deriv τ e} {d' : Deriv σ e}
    {u u' : List TokenKind} (hu : d.Ends u) (hu' : d'.Ends u')
    (h : d.kinds ++ u = d'.kinds ++ u') :
    d.map (fun _ => ()) = d'.map (fun _ => ()) ∧ u = u' := by
  -- without payloads the kinds are as good as the leaves
  have hyield : (d.map fun _ => ()).yield ++ u.map (·, ()) =
      (d'.map fun _ => ()).yield ++ u'.map (·, ()) := by
    have := congrArg (List.map (·, ())) h
    simpa [kinds, yield_map, Function.comp_def] using this
  have hends : (d.map fun _ => ()).Ends ((u.map (·, ())).map (·.1)) := by
    intro k hk
    rw [lengthens_map]
    exact hu k (by simpa using hk)
  have hends' : (d'.map fun _ => ()).Ends ((u'.map (·, ())).map (·.1)) := by
    intro k hk
    rw [lengthens_map]
    exact hu' k (by simpa using hk)
  obtain ⟨hd, hrest⟩ := unique he hends hends' hyield
  refine ⟨hd, ?_⟩
  simpa [Function.comp_def] using congrArg (List.map (·.1)) hrest

/-- A sequence of kinds has at most one derivation. -/
theorem eq_of_kinds_eq (he : e.deterministic = true) {d d' : Deriv Unit e}
    (h : d.kinds = d'.kinds) : d = d' := by
  refine eq_of_yield_eq he ?_
  simpa [kinds, Function.comp_def] using congrArg (List.map (·, ())) h

end Deriv

/-! ## Productivity -/

section
variable {e f : Form} {k : TokenKind} {ks : List TokenKind}

instance : Nonempty (Deriv Unit (.token (k :: ks))) := ⟨.token k List.mem_cons_self ()⟩

instance [he : Nonempty (Deriv Unit e)] [hf : Nonempty (Deriv Unit f)] :
    Nonempty (Deriv Unit (.seq e f)) := by
  obtain ⟨a⟩ := he
  obtain ⟨b⟩ := hf
  exact ⟨.seq a b⟩

instance : Nonempty (Deriv Unit (.opt e)) := ⟨.none⟩

instance : Nonempty (Deriv Unit (.many e)) := ⟨.nil⟩

/-- Every nonterminal derives something. -/
instance (n : Nonterminal) : Nonempty (Deriv Unit (.ref n)) := by
  have ident : Deriv Unit (Form.one .ident) := .token .ident List.mem_cons_self ()
  have type : Deriv Unit (.ref .type) := .ref (.seq (.right (.seq ident .none)) .nil)
  have ctor : Deriv Unit (.ref .ctor) := .ref (.seq ident .none)
  cases n with
  | doc =>
    exact ⟨.ref (.seq (.seq .none (.seq .nil .nil)) (.token .eof List.mem_cons_self ()))⟩
  | dataType =>
    exact ⟨.ref (.seq ident (.seq .none
      (.seq (.token .equals List.mem_cons_self ()) (.seq ctor .nil))))⟩
  | ctor => exact ⟨ctor⟩
  | arg => exact ⟨.ref (.seq type ident)⟩
  | type => exact ⟨type⟩
  | name => exact ⟨.ref (.left ident)⟩

end

/-! ## Meaning -/

/-- What a nonterminal describes; a document is described up to the name of its source. -/
def Meaning : Nonterminal → Type
  | .doc => Text → Doc
  | .dataType => DataType
  | .ctor => Constructor
  | .arg => Arg
  | .type => Ty
  | .name => Text

/-- What a form describes, put together from its parts. -/
def Value : Form → Type
  | .token _ => TokenKind × Text
  | .ref n => Meaning n
  | .seq e f => Value e × Value f
  | .either e f => Value e ⊕ Value f
  | .opt e => Option (Value e)
  | .many e => List (Value e)

/-- The items of a list with separators. -/
def itemsOf {α β : Type} (list : α × List (β × α)) : List α := list.1 :: list.2.map (·.2)

/-- The items of an optional list in brackets. -/
def enclosedItems {α β γ δ : Type} : Option (γ × (α × List (β × α)) × δ) → List α
  | none => []
  | some (_, list, _) => itemsOf list

/-- The type of a keyword. -/
def primitiveOf (kind : TokenKind) : Primitive :=
  (primitiveKeywords.lookup kind).getD .boolean

/-- The type that stands before the brackets of a type. -/
def elementOf : Value element → Ty
  | .inl keyword => .prim (primitiveOf keyword.1)
  | .inr (name, args) => .cls name.2 (enclosedItems args)

/-- What a nonterminal describes, given what its rule describes. Every pair of brackets makes an
array of the type before it. -/
def act : (n : Nonterminal) → Value (rule n) → Meaning n
  | .doc, ((package, imports, types), _) =>
    fun source => ⟨source, (package.map (·.2)).getD [], imports.map (·.2), types⟩
  | .dataType, (name, params, _, constructors) =>
    ⟨name.2, (enclosedItems params).map (·.2), itemsOf constructors⟩
  | .ctor, (name, args) => ⟨name.2, enclosedItems args⟩
  | .arg, (type, name) => ⟨type, name.2⟩
  | .type, (element, brackets) =>
    brackets.foldl (fun type _ => Ty.array type) (elementOf element)
  | .name, .inl plain => plain.2
  | .name, .inr dotted => dotted.2

/-- What a derivation describes. -/
def Deriv.value : {e : Form} → Deriv Text e → Value e
  | _, .token kind _ text => (kind, text)
  | _, .ref (n := n) body => act n body.value
  | _, .seq a b => (a.value, b.value)
  | _, .left a => .inl a.value
  | _, .right b => .inr b.value
  | _, .none => Option.none
  | _, .some a => Option.some a.value
  | _, .nil => []
  | _, .cons a as => a.value :: as.value

/-- The document that a derivation describes. -/
def Deriv.document (d : Deriv Text (.ref .doc)) (source : Text) : Doc := d.value source

/-- Whether kinds of tokens make up a document, the end of the source included. -/
def Sentence (kinds : List TokenKind) : Prop := ∃ d : Deriv Unit (.ref .doc), d.kinds = kinds

end AdtCompiler.Grammar
