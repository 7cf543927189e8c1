import AdtCompiler.Proofs.Scanning

/-!
# Lookahead is transparent

A token stream may be asked for its next token, for a look at it, or to take it if it is of some
kind. However these calls are mixed, the stream behaves like a position in one fixed sequence of
tokens, the one that calls of `next` alone return: every call is answered from the token at the
position, and only taking a token moves the position, by one.

## Contents

- `TokenStream.Call`, `TokenStream.log`: calls, and what is seen of them
- `TokenStream.StandsAt`: the stream stands before a token, which it may have scanned already
- `TokenStream.standsAt_call`: what one call does
- `TokenStream.fits_log`, `TokenStream.taken_log`: what all calls do
- `TokenStream.lookahead_transparent`
-/

namespace AdtCompiler

open Token

/-- The scanner behind a number of tokens. -/
def Token.Scanner.skip (s : Scanner) : Nat → Scanner
  | 0 => s
  | i + 1 => (s.skip i).next.2

namespace TokenStream

/-! ## Calls of `next` alone -/

theorem after_succ (s : TokenStream) (i : Nat) : s.after (i + 1) = (s.after i).next.2 := by
  induction i generalizing s with
  | zero => rfl
  | succ i ih => exact ih s.next.2

/-- Calls of `next` alone never look ahead: the scanner is as far as the calls are. -/
theorem after_start (file : SourceFile) (table : WordTable) (i : Nat) :
    ∃ text line, (start file table).after i =
      ⟨(Scanner.start file table).skip i, none, text, line⟩ := by
  induction i with
  | zero => exact ⟨[], 1, rfl⟩
  | succ i ih =>
    obtain ⟨text, line, hafter⟩ := ih
    rw [after_succ, hafter]
    exact ⟨_, _, rfl⟩

/-- The scanner scans what calls of `next` alone return. -/
theorem next_skip (file : SourceFile) (table : WordTable) (i : Nat) :
    ((Scanner.start file table).skip i).next =
      ((start file table).nth i, (Scanner.start file table).skip (i + 1)) := by
  obtain ⟨text, line, hafter⟩ := after_start file table i
  rw [nth, hafter]
  rfl

/-! ## Calls of all kinds -/

/-- A call on a token stream. -/
inductive Call where
  /-- Take the next token. -/
  | next
  /-- Look at the next token. -/
  | peekToken
  /-- Look at the kind of the next token. -/
  | peek
  /-- Take the next token if it is of a kind. -/
  | accept (kind : TokenKind)
deriving Repr, DecidableEq

/-- What a call returns. -/
inductive Answer where
  | token (t : Token)
  | kind (kind : TokenKind)
  | verdict (accepted : Bool)
deriving Repr, DecidableEq

/-- Makes a call. -/
def call (s : TokenStream) : Call → Answer × TokenStream
  | .next => (.token s.next.1, s.next.2)
  | .peekToken => (.token s.peek.1, s.peek.2)
  | .peek => (.kind s.peek.1.kind, s.peek.2)
  | .accept kind => (.verdict (s.accept kind).1, (s.accept kind).2)

/-- The token that a call takes off the stream. -/
def taken? (s : TokenStream) : Call → Option Token
  | .next => some s.next.1
  | .peekToken | .peek => none
  -- an `accept` that succeeds takes the token with `next` once it has looked at it
  | .accept kind => if (s.accept kind).1 then some s.peek.2.next.1 else none

/-- What is seen of a call. -/
structure Entry where
  call : Call
  answer : Answer
  /-- The token that the call took off the stream. -/
  taken : Option Token
  /-- The stream behind the call. -/
  after : TokenStream
deriving Repr

/-- Whether the call was a `next` or an `accept` that succeeded. -/
def Entry.takes (e : Entry) : Bool :=
  match e.call, e.answer with
  | .next, _ => true
  | .accept _, .verdict accepted => accepted
  | _, _ => false

/-- What is seen of a call on a stream. -/
def entry (s : TokenStream) (c : Call) : Entry := ⟨c, (s.call c).1, s.taken? c, (s.call c).2⟩

/-- Makes calls one after another, and lists what is seen of them. -/
def log (s : TokenStream) : List Call → List Entry
  | [] => []
  | c :: calls => s.entry c :: (s.call c).2.log calls

/-- The number of calls that were a `next` or an `accept` that succeeded. -/
def takeCount (entries : List Entry) : Nat := entries.countP Entry.takes

theorem takeCount_cons (e : Entry) (entries : List Entry) :
    takeCount (e :: entries) = takeCount [e] + takeCount entries := by
  simp only [takeCount, List.countP_cons, List.countP_nil]
  omega

theorem map_call_log (s : TokenStream) (calls : List Call) :
    (s.log calls).map Entry.call = calls := by
  induction calls generalizing s with
  | nil => rfl
  | cons c calls ih => exact congrArg (c :: ·) (ih _)

/-! ## Positions -/

section Positions

variable (file : SourceFile) (table : WordTable) (position : Nat)

/-- The stream that has scanned up to the token of a number and keeps none. -/
def behind : TokenStream where
  scanner := (Scanner.start file table).skip (position + 1)
  ahead := none
  lastText := ((start file table).nth position).text
  lastLine := ((start file table).nth position).line

/-- The stream that has scanned up to the token of a number and keeps this one. -/
def before : TokenStream :=
  { behind file table position with ahead := some ((start file table).nth position) }

end Positions

/-- The stream of a file stands before the token of a number. It has scanned this token and keeps
it, or it has scanned the tokens before it only. -/
inductive StandsAt (file : SourceFile) (table : WordTable) : TokenStream → Nat → Prop where
  | scanned (position : Nat) : StandsAt file table (before file table position) position
  | unscanned (position : Nat) (text : Text) (line : UInt32) :
      StandsAt file table ⟨(Scanner.start file table).skip position, none, text, line⟩ position

variable {file : SourceFile} {table : WordTable} {s : TokenStream} {position : Nat}

theorem standsAt_start (file : SourceFile) (table : WordTable) :
    StandsAt file table (start file table) 0 :=
  .unscanned 0 [] 1

theorem standsAt_behind (file : SourceFile) (table : WordTable) (position : Nat) :
    StandsAt file table (behind file table position) (position + 1) :=
  .unscanned (position + 1) _ _

/-- Scanning goes on with the token at the position. -/
theorem scan_skip (text : Text) (line : UInt32) :
    scan ⟨(Scanner.start file table).skip position, none, text, line⟩ =
      ((start file table).nth position, behind file table position) := by
  simp only [scan, next_skip]
  rfl

/-- Taking a token takes the one at the position, whether it was looked at or not. -/
theorem StandsAt.next_eq (h : StandsAt file table s position) :
    s.next = ((start file table).nth position, behind file table position) := by
  cases h with
  | scanned => rfl
  | unscanned text line => exact scan_skip _ _

/-- Looking at a token scans it if need be, and keeps it. -/
theorem StandsAt.peek_eq (h : StandsAt file table s position) :
    s.peek = ((start file table).nth position, before file table position) := by
  cases h with
  | scanned => rfl
  | unscanned text line =>
    simp only [peek, scan_skip]
    rfl

/-- A token is accepted exactly if it is of the kind, and otherwise it is kept. -/
theorem StandsAt.accept_eq (h : StandsAt file table s position) (kind : TokenKind) :
    s.accept kind =
      if ((start file table).nth position).kind = kind then (true, behind file table position)
      else (false, before file table position) := by
  simp only [accept, h.peek_eq]
  rfl

/-! ## One call -/

/-- What a call answers about a token. -/
def Call.answerTo (t : Token) : Call → Answer
  | .next | .peekToken => .token t
  | .peek => .kind t.kind
  | .accept kind => .verdict (t.kind == kind)

/-- A call on the stream of a file is made at a position of its tokens. -/
structure Entry.Fits (file : SourceFile) (table : WordTable) (position : Nat) (e : Entry) :
    Prop where
  /-- The call is answered from the token at the position. -/
  answer_eq : e.answer = e.call.answerTo ((start file table).nth position)
  /-- A `next` and an `accept` that succeeds take this token, and other calls take nothing. -/
  taken_eq : e.taken = if e.takes then some ((start file table).nth position) else none
  /-- The token at the position is the furthest one that is scanned so far. -/
  scanner_eq : e.after.scanner = (Scanner.start file table).skip (position + 1)
  /-- The text reported is that of this token. -/
  lastText_eq : e.after.lastText = ((start file table).nth position).text
  /-- The line reported is that of this token. -/
  lastLine_eq : e.after.lastLine = ((start file table).nth position).line

/-- One call fits its position, and moves it by one if it takes a token. -/
theorem standsAt_call (h : StandsAt file table s position) (c : Call) :
    (s.entry c).Fits file table position ∧
      StandsAt file table (s.call c).2 (position + takeCount [s.entry c]) := by
  cases c with
  | next =>
    simp only [entry, call, taken?, h.next_eq]
    exact ⟨⟨rfl, rfl, rfl, rfl, rfl⟩, standsAt_behind file table position⟩
  | peekToken =>
    simp only [entry, call, taken?, h.peek_eq]
    exact ⟨⟨rfl, rfl, rfl, rfl, rfl⟩, .scanned position⟩
  | peek =>
    simp only [entry, call, taken?, h.peek_eq]
    exact ⟨⟨rfl, rfl, rfl, rfl, rfl⟩, .scanned position⟩
  | accept kind =>
    simp only [entry, call, taken?, h.accept_eq, h.peek_eq]
    by_cases hkind : ((start file table).nth position).kind = kind
    · -- the token that was looked at is the one that is taken
      simp only [hkind, if_true]
      refine ⟨⟨?_, rfl, rfl, rfl, rfl⟩, standsAt_behind file table position⟩
      simp [Call.answerTo, hkind]
    · -- a token of another kind stays
      simp only [hkind, if_false]
      refine ⟨⟨?_, rfl, rfl, rfl, rfl⟩, .scanned position⟩
      simp [Call.answerTo, hkind]

/-- The token that a call takes, if any, is the one at its position. -/
theorem Entry.Fits.toList_taken {e : Entry} (h : e.Fits file table position) :
    e.taken.toList = (List.range' position (takeCount [e])).map (start file table).nth := by
  rw [h.taken_eq]
  cases htakes : e.takes <;> simp [takeCount, htakes]

/-! ## All calls -/

/-- Every call fits the position behind the tokens that were taken before it. -/
theorem fits_log (h : StandsAt file table s position) (calls : List Call) (i : Nat) (e : Entry)
    (he : (s.log calls)[i]? = some e) :
    e.Fits file table (position + takeCount ((s.log calls).take i)) := by
  induction calls generalizing s position i with
  | nil => simp [log] at he
  | cons c calls ih =>
    obtain ⟨hfits, hafter⟩ := standsAt_call h c
    cases i with
    | zero =>
      cases Option.some.inj he
      exact hfits
    | succ i =>
      -- the rest of the calls starts where the first call left the stream
      rw [log, List.take_succ_cons, takeCount_cons, ← Nat.add_assoc]
      exact ih hafter i he

/-- The tokens taken are those from the position on, one by one. -/
theorem taken_log (h : StandsAt file table s position) (calls : List Call) :
    (s.log calls).filterMap Entry.taken =
      (List.range' position (takeCount (s.log calls))).map (start file table).nth := by
  induction calls generalizing s position with
  | nil => rfl
  | cons c calls ih =>
    obtain ⟨hfits, hafter⟩ := standsAt_call h c
    calc (s.log (c :: calls)).filterMap Entry.taken
        = (s.entry c).taken.toList ++ ((s.call c).2.log calls).filterMap Entry.taken := by
          rw [log, List.filterMap_cons]
          cases (s.entry c).taken <;> rfl
      _ = (List.range' position (takeCount [s.entry c]) ++
            List.range' (position + takeCount [s.entry c])
              (takeCount ((s.call c).2.log calls))).map (start file table).nth := by
          rw [hfits.toList_taken, ih hafter, List.map_append]
      _ = (List.range' position (takeCount (s.log (c :: calls)))).map (start file table).nth := by
          rw [List.range'_append_1, log, takeCount_cons (s.entry c) (log _ _)]

/-- **Lookahead is transparent.** Calls on the stream of a file, in any order, take the first of
the tokens that calls of `next` alone return, as many as there are calls that take one. Each call
is answered from the token behind those taken before it, which is then the furthest token scanned
and the one whose text and line are reported. -/
theorem lookahead_transparent (file : SourceFile) (table : WordTable) (calls : List Call) :
    ((start file table).log calls).map Entry.call = calls ∧
    ((start file table).log calls).filterMap Entry.taken =
      (List.range (takeCount ((start file table).log calls))).map (start file table).nth ∧
    ∀ (i : Nat) (e : Entry), ((start file table).log calls)[i]? = some e →
      e.Fits file table (takeCount (((start file table).log calls).take i)) := by
  have hstart := standsAt_start file table
  refine ⟨map_call_log _ calls, ?_, fun i e he => ?_⟩
  · rw [taken_log hstart, List.range_eq_range']
  · have hfits := fits_log hstart calls i e he
    rwa [Nat.zero_add] at hfits

end TokenStream

end AdtCompiler
