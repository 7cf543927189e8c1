import AdtCompiler.Proofs.Grammar

/-!
# Readers that follow the grammar

A reader takes tokens off the front of a list. `Reads` says what a reader of a form of the
grammar must answer:

- when it succeeds, the tokens it took are the leaves of a derivation, its value is read off that
  derivation, and the next token does not lengthen the derivation;
- when it stops, the tokens before the stop begin a derivation, but no derivation begins with
  them and a token of the kind found there.

The second half is what makes readers compose: together with the uniqueness of derivations it
says that a reader which stopped could not have gone on, whatever was still to come.
-/

namespace AdtCompiler

/-- What the grammar sees of a token. -/
def Token.spelling (t : Token) : TokenKind × Text := (t.kind, t.text)

namespace Parser

open Grammar

/-- The kinds of tokens. -/
abbrev kinds (tokens : List Token) : List TokenKind := tokens.map (·.kind)

theorem kinds_eq_of_spelled {e : Form} {d : Deriv Text e} {taken : List Token}
    (h : taken.map Token.spelling = d.yield) : kinds taken = d.kinds := by
  simp only [Deriv.kinds, ← h, List.map_map, Function.comp_def, Token.spelling]

/-- The kind before a stop is the first kind of what was read so far and of what was found. -/
theorem head_kinds_append (taken rest : List Token) (w : List TokenKind) :
    (kinds taken ++ peek rest :: w).head? = some (peek (taken ++ rest)) := by
  cases taken <;> rfl

/-! ## What a reader must answer -/

/-- The answers of a reader of a form on a list of tokens. Behind the form only kinds with
`follow` are expected. -/
inductive Reads {α : Type} (form : Form) (value : Value form → α) (follow : TokenKind → Prop)
    (tokens : List Token) : Except Stop (α × List Token) → Prop where
  | ok (d : Deriv Text form) (taken rest : List Token)
      (split : tokens = taken ++ rest)
      (spelled : taken.map Token.spelling = d.yield)
      (ended : ¬ d.Lengthens (peek rest))
      (followed : follow (peek rest)) :
      Reads form value follow tokens (.ok (value d.value, rest))
  | error (stop : Stop) (taken : List Token)
      (split : tokens = taken ++ stop.rest)
      (viable : ∃ d : Deriv Unit form, kinds taken <+: d.kinds)
      (refused : ∀ (d : Deriv Unit form) (u w : List TokenKind),
        d.Ends u → (∀ k ∈ u.head?, follow k) →
          d.kinds ++ u ≠ kinds taken ++ peek stop.rest :: w) :
      Reads form value follow tokens (.error stop)

/-- Anything may follow. -/
abbrev anything : TokenKind → Prop := fun _ => True

namespace Reads

variable {α β : Type} {e f : Form} {n : Nonterminal} {follow : TokenKind → Prop}
  {tokens : List Token}

/-! ## Single tokens -/

/-- A reader stops at once at a kind that its form does not begin with. -/
theorem stuck [hne : Nonempty (Deriv Unit e)] {value : Value e → α} (what : Expected)
    (hnull : e.nullable = false) (hfirst : peek tokens ∉ e.first) :
    Reads e value follow tokens (.error ⟨what, tokens⟩) := by
  obtain ⟨sample⟩ := hne
  refine .error _ [] rfl ⟨sample, List.nil_prefix⟩ fun d u w _ _ h => ?_
  cases hd : d.yield with
  | nil => exact d.yield_ne_nil hnull hd
  | cons leaf more =>
    simp only [Deriv.kinds, hd, List.map_cons, List.cons_append, List.map_nil, List.nil_append,
      List.cons.injEq] at h
    exact hfirst (h.1 ▸ d.mem_first hd)

/-- Taking one token of an expected kind reads it. -/
theorem token {kinds : List TokenKind} {value : TokenKind × Text → α} {t : Token}
    {rest : List Token} (hkind : t.kind ∈ kinds) :
    Reads (.token kinds) value anything (t :: rest) (.ok (value t.spelling, rest)) :=
  .ok (.token t.kind hkind t.text) [t] rest rfl rfl not_false trivial

/-- Taking one token of the kind that was seen reads it. -/
theorem tail {kind : TokenKind} (hpeek : peek tokens = kind) (heof : kind ≠ .eof) :
    Reads (.one kind) (fun _ => ()) anything tokens (.ok ((), tokens.tail)) := by
  cases tokens with
  | nil => exact absurd hpeek.symm heof
  | cons t rest => exact token (List.mem_singleton.mpr hpeek)

/-! ## Sequences -/

/-- A sequence stops where its first part stops. -/
theorem stop_first [hne : Nonempty (Deriv Unit f)] {value : Value e → α}
    {value' : Value (.seq e f) → β} {stop : Stop} (hapart : Form.apart e.trail f.first)
    (h : Reads e value anything tokens (.error stop)) :
    Reads (.seq e f) value' follow tokens (.error stop) := by
  obtain ⟨sample⟩ := hne
  cases h with
  | error _ taken split viable refused =>
    obtain ⟨d, hd⟩ := viable
    refine .error _ taken split ⟨.seq d sample, ?_⟩ fun d' u w hends _ heq => ?_
    · rw [Deriv.kinds_seq]
      exact hd.trans (List.prefix_append _ _)
    · cases d' with
      | seq a b =>
        -- the first part was refused whatever follows it, and here the second part does
        rw [Deriv.kinds_seq, List.append_assoc] at heq
        exact refused a _ w (hends.of_seq_first hapart) (fun _ _ => trivial) heq

/-- A sequence stops where its second part stops, behind the first. -/
theorem stop_second {value' : Value (.seq e f) → β} {value : Value f → β} {stop : Stop}
    {taken rest : List Token} (he : e.deterministic) (hapart : Form.apart e.trail f.first)
    (d : Deriv Text e) (split : tokens = taken ++ rest)
    (spelled : taken.map Token.spelling = d.yield) (ended : ¬ d.Lengthens (peek rest))
    (h : Reads f value follow rest (.error stop)) :
    Reads (.seq e f) value' follow tokens (.error stop) := by
  have hkinds : kinds taken = d.kinds := kinds_eq_of_spelled spelled
  cases h with
  | error _ more split' viable refused =>
    obtain ⟨d', hd'⟩ := viable
    refine .error _ (taken ++ more) (by rw [split, split', List.append_assoc])
      ⟨.seq (d.map fun _ => ()) d', ?_⟩ fun c u w hends hu heq => ?_
    · rw [Deriv.kinds_seq, Deriv.kinds_map, kinds, List.map_append, ← hkinds]
      exact (List.prefix_append_right_inj _).mpr hd'
    · cases c with
      | seq a b =>
        rw [Deriv.kinds_seq, List.append_assoc, kinds, List.map_append, List.append_assoc] at heq
        -- the first parts agree, so what is left over is a derivation that `h` refuses
        have hrest : d.Ends (kinds more ++ peek stop.rest :: w) := by
          intro k hk
          rw [head_kinds_append, ← split'] at hk
          cases hk
          exact ended
        have hsame := (Deriv.unique_kinds he (hends.of_seq_first hapart) hrest
          (by rw [heq, ← hkinds])).2
        exact refused b u w hends.of_seq_second hu hsame

/-- Reading one form and then another reads their sequence. -/
theorem bind [Nonempty (Deriv Unit f)] {value : Value e → α} {value' : Value (.seq e f) → β}
    {r : Except Stop (α × List Token)} {g : α × List Token → Except Stop (β × List Token)}
    (he : e.deterministic) (hapart : Form.apart e.trail f.first)
    (h : Reads e value anything tokens r)
    (hg : ∀ a rest, r = .ok (value a, rest) → rest.length ≤ tokens.length →
      (e.nullable = false → rest.length < tokens.length) →
        Reads f (fun b => value' (a, b)) follow rest (g (value a, rest))) :
    Reads (.seq e f) value' follow tokens (r >>= g) := by
  cases h with
  | error stop taken split viable refused =>
    have hfirst : Reads e value anything tokens (.error stop) :=
      .error stop taken split viable refused
    exact stop_first hapart hfirst
  | ok d taken rest split spelled ended _ =>
    have hlength : tokens.length = taken.length + rest.length := by
      rw [split, List.length_append]
    -- a form that is not empty takes a token, which pays for the next round of a loop
    have hless : e.nullable = false → rest.length < tokens.length := by
      intro hnull
      have htaken : taken ≠ [] := by
        rintro rfl
        exact d.yield_ne_nil hnull spelled.symm
      have := List.length_pos_iff.mpr htaken
      omega
    have h' := hg d.value rest rfl (by omega) hless
    change Reads _ _ _ _ (g (value d.value, rest))
    generalize hr : g (value d.value, rest) = r' at h'
    cases h' with
    | error stop more split' viable refused =>
      have hsecond : Reads f (fun b => value' (d.value, b)) follow rest (.error stop) :=
        .error stop more split' viable refused
      exact stop_second he hapart d split spelled ended hsecond
    | ok d' more rest' split' spelled' ended' followed =>
      refine @ok _ (.seq e f) value' follow tokens (.seq d d') (taken ++ more) rest'
        (by rw [split, split', List.append_assoc]) ?_ ?_ followed
      · rw [List.map_append, spelled, spelled', Deriv.yield]
      · rintro (hlen | ⟨hempty, hlen⟩)
        · exact ended' hlen
        · -- nothing was taken behind the first part, so its own end is at stake
          have hmore : more = [] := by simpa [hempty] using spelled'
          rw [split', hmore, List.nil_append] at ended
          exact ended hlen

/-- Reading a form behind a token that was seen. -/
theorem behind [Nonempty (Deriv Unit f)] {kind : TokenKind}
    {value : Value (.seq (.one kind) f) → α} {r : Except Stop (α × List Token)}
    (hpeek : peek tokens = kind) (heof : kind ≠ .eof)
    (h : ∀ a, Reads f (fun b => value (a, b)) follow tokens.tail r) :
    Reads (.seq (.one kind) f) value follow tokens r := by
  have hrest : ∀ a rest, Except.ok (ε := Stop) ((), tokens.tail) = .ok ((), rest) →
      Reads f (fun b => value (a, b)) follow rest r := by
    rintro a rest ⟨⟩
    exact h a
  exact bind (g := fun _ => r) rfl rfl (tail hpeek heof) fun a rest hok _ _ => hrest a rest hok

/-- Giving the value another form changes nothing else. -/
theorem map {value : Value e → α} {value' : Value e → β} {r : Except Stop (α × List Token)}
    {g : α → β} (h : Reads e value follow tokens r) (hvalue : ∀ v, value' v = g (value v)) :
    Reads e value' follow tokens (r >>= fun p => pure (g p.1, p.2)) := by
  cases h with
  | ok d taken rest split spelled ended followed =>
    change Reads _ _ _ _ (.ok (g (value d.value), rest))
    rw [← hvalue]
    exact .ok d taken rest split spelled ended followed
  | error stop taken split viable refused => exact .error stop taken split viable refused

/-! ## Other forms

A reader of `e` is a reader of a larger form when the derivations that the larger form has
besides those of `e` cannot begin with the token that was seen. -/

theorem embed {e' : Form} {value : Value e → α} {value' : Value e' → α}
    {r : Except Stop (α × List Token)} (there : {τ : Type} → Deriv τ e → Deriv τ e')
    (hyield : ∀ {τ : Type} (d : Deriv τ e), (there d).yield = d.yield)
    (hlen : ∀ {τ : Type} (d : Deriv τ e) (k : TokenKind), (there d).Lengthens k ↔ d.Lengthens k)
    (hvalue : ∀ d : Deriv Text e, value' (there d).value = value d.value)
    (hother : ∀ d' : Deriv Unit e', (∃ d : Deriv Unit e, d' = there d) ∨
      ∀ u, d'.Ends u → (∀ k ∈ u.head?, follow k) → (d'.kinds ++ u).head? ≠ some (peek tokens))
    (h : Reads e value follow tokens r) : Reads e' value' follow tokens r := by
  have hkinds : ∀ {τ : Type} (d : Deriv τ e), (there d).kinds = d.kinds := fun d => by
    rw [Deriv.kinds, hyield, Deriv.kinds]
  cases h with
  | ok d taken rest split spelled ended followed =>
    rw [← hvalue]
    exact .ok (there d) taken rest split (by rw [hyield, spelled])
      (fun hl => ended ((hlen d _).mp hl)) followed
  | error stop taken split viable refused =>
    obtain ⟨sample, hsample⟩ := viable
    refine .error stop taken split ⟨there sample, by rwa [hkinds]⟩ fun d' u w hends hu heq => ?_
    rcases hother d' with ⟨d, rfl⟩ | hother
    -- a derivation of `e` was refused already, and any other one begins with another token
    · refine refused d u w (fun k hk hl => hends k hk ((hlen d k).mpr hl)) hu ?_
      rwa [hkinds] at heq
    · refine hother u hends hu ?_
      rw [heq, head_kinds_append, ← split]

/-- Reading what a rule says reads its nonterminal. -/
theorem ref {value : Value (.ref n) → α} {r : Except Stop (α × List Token)}
    (h : Reads (rule n) (fun v => value (act n v)) follow tokens r) :
    Reads (.ref n) value follow tokens r := by
  refine embed .ref (fun _ => rfl) (fun _ _ => Iff.rfl) (fun _ => rfl) (fun d' => ?_) h
  cases d' with
  | ref body => exact .inl ⟨body, rfl⟩

/-- A derivation of a sequence with its parts grouped to the left. -/
def regroup {τ : Type} {g : Form} : Deriv τ (.seq e (.seq f g)) → Deriv τ (.seq (.seq e f) g)
  | .seq a (.seq b c) => .seq (.seq a b) c

/-- A derivation of a repetition from that of its head and its tail. -/
def repeated {τ : Type} : Deriv τ (.seq e (.many e)) → Deriv τ (.many e)
  | .seq a as => .cons a as

/-- Sequences may be grouped to the left. -/
theorem assoc {g : Form} {value : Value (.seq (.seq e f) g) → α}
    {r : Except Stop (α × List Token)}
    (h : Reads (.seq e (.seq f g))
      (fun p : Value e × Value f × Value g => value ((p.1, p.2.1), p.2.2)) follow tokens r) :
    Reads (.seq (.seq e f) g) value follow tokens r := by
  refine embed regroup (fun d => ?_) (fun d k => ?_) (fun d => ?_) (fun d' => ?_) h
  · obtain - | - | ⟨a, - | - | ⟨b, c⟩⟩ := d
    simp only [regroup, Deriv.yield, List.append_assoc]
  · obtain - | - | ⟨a, - | - | ⟨b, c⟩⟩ := d
    simp only [regroup, Deriv.Lengthens, Deriv.yield, List.append_eq_nil_iff]
    grind
  · obtain - | - | ⟨a, - | - | ⟨b, c⟩⟩ := d
    rfl
  · obtain - | - | ⟨- | - | ⟨a, b⟩, c⟩ := d'
    exact .inl ⟨.seq a (.seq b c), rfl⟩

/-- A derivation does not begin with a kind that its form does not begin with. -/
theorem head_ne_of_not_mem_first {d : Deriv Unit e} {u : List TokenKind} {k : TokenKind}
    (hnull : e.nullable = false) (hfirst : k ∉ e.first) : (d.kinds ++ u).head? ≠ some k := by
  cases hd : d.yield with
  | nil => exact absurd hd (d.yield_ne_nil hnull)
  | cons leaf more =>
    intro h
    have hk : leaf.1 = k := by simpa [Deriv.kinds, hd] using h
    exact hfirst (hk ▸ d.mem_first hd)

/-- The left of two forms is read when the right one cannot begin here. -/
theorem left {value : Value (.either e f) → α} {r : Except Stop (α × List Token)}
    (hnull : f.nullable = false) (hfirst : peek tokens ∉ f.first)
    (h : Reads e (fun v => value (.inl v)) follow tokens r) :
    Reads (.either e f) value follow tokens r := by
  refine embed .left (fun _ => rfl) (fun _ _ => Iff.rfl) (fun _ => rfl) (fun d' => ?_) h
  cases d' with
  | left a => exact .inl ⟨a, rfl⟩
  | right b => exact .inr fun u _ _ => head_ne_of_not_mem_first (d := b) hnull hfirst

/-- The right of two forms is read when the left one cannot begin here. -/
theorem right {value : Value (.either e f) → α} {r : Except Stop (α × List Token)}
    (hnull : e.nullable = false) (hfirst : peek tokens ∉ e.first)
    (h : Reads f (fun v => value (.inr v)) follow tokens r) :
    Reads (.either e f) value follow tokens r := by
  refine embed .right (fun _ => rfl) (fun _ _ => Iff.rfl) (fun _ => rfl) (fun d' => ?_) h
  cases d' with
  | left a => exact .inr fun u _ _ => head_ne_of_not_mem_first (d := a) hnull hfirst
  | right b => exact .inl ⟨b, rfl⟩

/-- A form that may be left out is left out when the next token may follow it. -/
theorem opt_none {value : Value (.opt e) → α} (hfirst : peek tokens ∉ e.first)
    (hfollow : follow (peek tokens)) :
    Reads (.opt e) value follow tokens (.ok (value none, tokens)) :=
  .ok (.none : Deriv Text (.opt e)) [] tokens rfl rfl hfirst hfollow

/-- A form that may be left out is read when the next token may not follow it. -/
theorem opt_some {value : Value (.opt e) → α} {r : Except Stop (α × List Token)}
    (hseen : peek tokens ∉ e.first → ¬ follow (peek tokens))
    (h : Reads e (fun v => value (some v)) follow tokens r) :
    Reads (.opt e) value follow tokens r := by
  refine embed .some (fun _ => rfl) (fun _ _ => Iff.rfl) (fun _ => rfl) (fun d' => ?_) h
  cases d' with
  | some a => exact .inl ⟨a, rfl⟩
  | none =>
    -- leaving the form out needs a next token that may follow it, and this one may not
    refine .inr fun u hends hu hhead => ?_
    exact hseen (hends _ hhead) (hu _ hhead)

/-- A repetition ends when the next token may follow it. -/
theorem many_nil {value : Value (.many e) → α} (hfirst : peek tokens ∉ e.first)
    (hfollow : follow (peek tokens)) :
    Reads (.many e) value follow tokens (.ok (value [], tokens)) :=
  .ok (.nil : Deriv Text (.many e)) [] tokens rfl rfl hfirst hfollow

/-- A repetition goes on when the next token may not follow it. -/
theorem many_cons {value : Value (.many e) → α} {r : Except Stop (α × List Token)}
    (hseen : peek tokens ∉ e.first → ¬ follow (peek tokens))
    (h : Reads (.seq e (.many e)) (fun p : Value e × List (Value e) => value (p.1 :: p.2))
      follow tokens r) : Reads (.many e) value follow tokens r := by
  refine embed repeated (fun d => ?_) (fun d k => ?_) (fun d => ?_) (fun d' => ?_) h
  · cases d with
    | seq a as => rfl
  · cases d with
    | seq a as => exact Iff.rfl
  · cases d with
    | seq a as => rfl
  · cases d' with
    | cons a as => exact .inl ⟨.seq a as, rfl⟩
    | nil =>
      refine .inr fun u hends hu hhead => ?_
      exact hseen (hends _ hhead) (hu _ hhead)

end Reads

end Parser

end AdtCompiler
