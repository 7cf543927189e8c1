import AdtCompiler.Proofs.Publication
import AdtCompiler.Target.Memory
import Mathlib.Data.List.Induction

/-!
# Calls on the targets of a factory

A factory makes targets, which are then written to, closed and aborted in any order, each of them
as often as one likes. What is published in the end depends on the calls alone: a unit has the text
of the target of its name that was closed last, where only a first close counts, and only if the
target was not aborted before it. This is first said without any state, then kept in a ledger call
by call, and the ledger is what a factory is compared with.

## Contents

- `TargetFactory.performAll`: calls carried out with a factory
- `TargetCalls.Unreleased`, `TargetCalls.Publishes`: what calls amount to, said without state
- `Ledger`: the same call by call, with `Ledger.unreleased_iff` and `Ledger.publishes_iff`
- `Tracked`: targets that agree with the ledger one by one
- `MemoryUnits.mem_results_iff`: the units in memory are those that are published
-/

namespace AdtCompiler

open FileTarget (Call)

/-- A call to a factory: it makes a target, or something is done with the target of a number.
Targets are numbered in the order in which they were asked for. -/
inductive TargetCall where
  | create (name : Text)
  | on (index : Nat) (call : Call)
deriving Repr, DecidableEq

namespace TargetFactory

section

variable {m : Type → Type} [Monad m] (f : TargetFactory m)

/-- Does something with a target. -/
def use (t : f.Target) : Call → m (Option Failure × f.Target)
  | .write text => f.write t text
  | .close => f.close t
  | .abort => f.discard t

/-- Carries out a call. The targets are those that were asked for so far, without those that were
refused; where there is no target, nothing is done. -/
def perform (targets : List (Option f.Target)) : TargetCall → m (List (Option f.Target))
  | .create name => do
    match ← f.create name with
    | .ok t => return targets ++ [some t]
    | .error _ => return targets ++ [none]
  | .on index call =>
    match targets[index]? with
    | some (some t) => do
      let (_, t) ← f.use t call
      return targets.set index (some t)
    | _ => return targets

/-- Carries out calls one after another, whatever they report. -/
def performAll (calls : List TargetCall) : m (List (Option f.Target)) := calls.foldlM f.perform []

end

section

variable {σ : Type} {f : TargetFactory (StateM σ)} {s s' : σ} {targets : List (Option f.Target)}
  {t t' : f.Target} {name : Text} {index : Nat} {call : Call}

theorem run_perform_create (h : (f.create name).run s = (.ok t, s')) :
    (f.perform targets (.create name)).run s = (targets ++ [some t], s') :=
  run_bind h _

theorem run_perform_refused {e : Failure} (h : (f.create name).run s = (.error e, s')) :
    (f.perform targets (.create name)).run s = (targets ++ [none], s') :=
  run_bind h _

theorem run_perform_on {failure : Option Failure} (ht : targets[index]? = some (some t))
    (h : (f.use t call).run s = ((failure, t'), s')) :
    (f.perform targets (.on index call)).run s = (targets.set index (some t'), s') := by
  simp only [perform, ht]
  exact run_bind h _

theorem run_perform_absent (ht : targets[index]? = none) :
    (f.perform targets (.on index call)).run s = (targets, s) := by
  simp only [perform, ht]
  rfl

end

end TargetFactory

/-! ## What calls amount to -/

namespace TargetCall

/-- Whether a call asks for a target. -/
def isCreate : TargetCall → Bool
  | create _ => true
  | on _ _ => false

/-- What a call writes to the target of a number. -/
def writtenTo (index : Nat) : TargetCall → Text
  | create _ => []
  | on i call => if i = index then call.written else []

end TargetCall

namespace TargetCalls

/-- The target of a number has the name, has not been released, and the text was written to it. -/
def Unreleased (calls : List TargetCall) (index : Nat) (name text : Text) : Prop :=
  ∃ before behind, calls = before ++ .create name :: behind ∧
    before.countP TargetCall.isCreate = index ∧
    (∀ call, .on index call ∈ behind → call.Writes) ∧
    behind.flatMap (TargetCall.writtenTo index) = text

/-- A call that closes, for the first time and not behind an abort, a target of the name to which
the text was written. -/
def Closes (before : List TargetCall) (call : TargetCall) (name text : Text) : Prop :=
  ∃ index, call = .on index .close ∧ Unreleased before index name text

/-- Of the calls that close a target of the name, the last one closes a target with the text. -/
def Publishes (calls : List TargetCall) (name text : Text) : Prop :=
  ∃ before call behind, calls = before ++ call :: behind ∧ Closes before call name text ∧
    ∀ middle later rest other, behind = middle ++ later :: rest →
      ¬ Closes (before ++ call :: middle) later name other

section Concat

variable {calls : List TargetCall} {index : Nat} {name text : Text}

/-- A split of calls with one more at their end is at that one or before it. -/
theorem concat_eq_append_cons {last call : TargetCall} {before behind : List TargetCall} :
    calls ++ [last] = before ++ call :: behind ↔
      (behind = [] ∧ calls = before ∧ last = call) ∨
        ∃ behind', behind = behind' ++ [last] ∧ calls = before ++ call :: behind' := by
  rcases List.eq_nil_or_concat' behind with rfl | ⟨behind', other, rfl⟩
  · simp
  · have hassoc : before ++ call :: (behind' ++ [other]) =
        (before ++ call :: behind') ++ [other] := by simp
    rw [hassoc, List.append_singleton_inj]
    constructor
    · rintro ⟨rfl, rfl⟩
      exact .inr ⟨behind', rfl, rfl⟩
    · rintro (⟨hnil, -⟩ | ⟨behind'', heq, rfl⟩)
      · simp at hnil
      · obtain ⟨rfl, rfl⟩ := List.append_singleton_inj.mp heq
        exact ⟨rfl, rfl⟩

theorem unreleased_concat_create {other : Text} :
    Unreleased (calls ++ [.create other]) index name text ↔
      (calls.countP TargetCall.isCreate = index ∧ other = name ∧ text = []) ∨
        Unreleased calls index name text := by
  constructor
  · -- the target is the one that was just created, or the new call is none of its own
    rintro ⟨before, behind, hcalls, hindex, hwrites, htext⟩
    rcases concat_eq_append_cons.mp hcalls with ⟨rfl, rfl, hname⟩ | ⟨behind', rfl, rfl⟩
    · exact .inl ⟨hindex, TargetCall.create.inj hname, htext.symm⟩
    · refine .inr ⟨before, behind', rfl, hindex, fun call hcall => ?_, ?_⟩
      · exact hwrites call (List.mem_append_left _ hcall)
      · simpa [TargetCall.writtenTo] using htext
  · rintro (⟨hindex, rfl, rfl⟩ | ⟨before, behind, rfl, hindex, hwrites, htext⟩)
    · exact ⟨calls, [], rfl, hindex, nofun, rfl⟩
    · refine ⟨before, behind ++ [.create other], by simp, hindex, fun call hcall => ?_, ?_⟩
      · exact hwrites call (by simpa using hcall)
      · simpa [TargetCall.writtenTo] using htext

theorem unreleased_concat_on {i : Nat} {call : Call} :
    Unreleased (calls ++ [.on i call]) index name text ↔
      ∃ front, Unreleased calls index name front ∧ (i = index → call.Writes) ∧
        front ++ TargetCall.writtenTo index (.on i call) = text := by
  constructor
  · rintro ⟨before, behind, hcalls, hindex, hwrites, htext⟩
    rcases concat_eq_append_cons.mp hcalls with ⟨-, -, hcreate⟩ | ⟨behind', rfl, rfl⟩
    · -- the last call creates nothing, so the target was created before it
      cases hcreate
    · refine ⟨_, ⟨before, behind', rfl, hindex, fun c hc => ?_, rfl⟩, fun heq => ?_, ?_⟩
      · exact hwrites c (List.mem_append_left _ hc)
      · exact hwrites call (by simp [heq])
      · simpa using htext
  · rintro ⟨front, ⟨before, behind, rfl, hindex, hwrites, rfl⟩, hcall, rfl⟩
    refine ⟨before, behind ++ [.on i call], by simp, hindex, fun c hc => ?_, by simp⟩
    -- its calls are those from before and perhaps the new one
    rcases List.mem_append.mp hc with hc | hc
    · exact hwrites c hc
    · obtain ⟨rfl, rfl⟩ := TargetCall.on.inj (List.mem_singleton.mp hc)
      exact hcall rfl

theorem publishes_concat {last : TargetCall} :
    Publishes (calls ++ [last]) name text ↔
      Closes calls last name text ∨
        (∀ other, ¬ Closes calls last name other) ∧ Publishes calls name text := by
  constructor
  · rintro ⟨before, call, behind, hcalls, hcloses, hlater⟩
    -- the call that publishes is the last one, or nothing behind it closes a target of the name
    rcases concat_eq_append_cons.mp hcalls with ⟨rfl, rfl, rfl⟩ | ⟨behind', rfl, rfl⟩
    · exact .inl hcloses
    · refine .inr ⟨fun other => ?_, before, call, behind', rfl, hcloses, ?_⟩
      · exact hlater behind' last [] other rfl
      · rintro middle later rest other rfl
        exact hlater middle later (rest ++ [last]) other (by simp)
  · rintro (hcloses | ⟨hlast, before, call, behind, rfl, hcloses, hlater⟩)
    · exact ⟨calls, last, [], rfl, hcloses, by simp⟩
    · refine ⟨before, call, behind ++ [last], by simp, hcloses, fun middle later rest other => ?_⟩
      intro hsplit
      -- a later close would be the new call or one of the old ones
      rcases concat_eq_append_cons.mp hsplit with ⟨rfl, rfl, rfl⟩ | ⟨rest', rfl, rfl⟩
      · exact hlast other
      · exact hlater middle later rest' other rfl

end Concat

end TargetCalls

/-! ## The ledger -/

/-- What calls amount to so far: the targets in the order in which they were asked for, each with
its name and with its text as long as it has not been released, and what was published, the latest
first. -/
structure Ledger where
  targets : List (Text × Option Text) := []
  published : List (Text × Text) := []
deriving Repr, DecidableEq

namespace Ledger

/-- A call on a target that has not been released. -/
def use (ledger : Ledger) (index : Nat) (name text : Text) : Call → Ledger
  | .write more => { ledger with targets := ledger.targets.set index (name, some (text ++ more)) }
  | .close =>
    { targets := ledger.targets.set index (name, none)
      published := (name, text) :: ledger.published }
  | .abort => { ledger with targets := ledger.targets.set index (name, none) }

/-- One more call. -/
def step (ledger : Ledger) : TargetCall → Ledger
  | .create name => { ledger with targets := ledger.targets ++ [(name, some [])] }
  | .on index call =>
    match ledger.targets[index]? with
    | some (name, some text) => ledger.use index name text call
    | _ => ledger

/-- The ledger of calls. -/
def after (calls : List TargetCall) : Ledger := calls.foldl step {}

theorem after_concat (calls : List TargetCall) (call : TargetCall) :
    after (calls ++ [call]) = (after calls).step call := by
  rw [after, List.foldl_concat]
  rfl

/-- Every target that was asked for is listed. -/
theorem length_targets (calls : List TargetCall) :
    (after calls).targets.length = calls.countP TargetCall.isCreate := by
  induction calls using List.reverseRecOn with
  | nil => rfl
  | append_singleton calls call ih =>
    rw [after_concat, List.countP_append, ← ih]
    cases call with
    | create name => simp [step, TargetCall.isCreate]
    | on index call =>
      simp only [step, TargetCall.isCreate, List.countP_singleton]
      split
      · cases call <;> simp [use]
      · simp

variable {calls : List TargetCall} {index : Nat} {name text : Text}

/-- A call on a target changes the entry of that target alone. -/
theorem targets_step_of_ne (ledger : Ledger) {i : Nat} (hne : i ≠ index) (call : Call) :
    (ledger.step (.on i call)).targets[index]? = ledger.targets[index]? := by
  simp only [step]
  split
  · cases call <;> simp [use, hne]
  · rfl

/-- A target keeps a text only through a write, which adds to it. -/
theorem targets_step_self (ledger : Ledger) (call : Call) :
    (ledger.step (.on index call)).targets[index]? = some (name, some text) ↔
      ∃ front, ledger.targets[index]? = some (name, some front) ∧ call.Writes ∧
        front ++ call.written = text := by
  simp only [step]
  split
  case h_1 other front hentry =>
    have hindex : index < ledger.targets.length := (List.getElem?_eq_some_iff.mp hentry).1
    rw [hentry]
    cases call <;> simp [use, hindex, Call.Writes, Call.written]
  case h_2 hreleased =>
    constructor
    · intro hentry
      exact absurd hentry (hreleased name text)
    · rintro ⟨front, hentry, -⟩
      exact absurd hentry (hreleased name front)

/-- The entries with a text are the targets that have not been released. -/
theorem unreleased_iff :
    (after calls).targets[index]? = some (name, some text) ↔
      TargetCalls.Unreleased calls index name text := by
  induction calls using List.reverseRecOn generalizing name text with
  | nil => simp [after, TargetCalls.Unreleased]
  | append_singleton calls call ih =>
    -- a step on the ledger is compared with the same step on the list of calls
    rw [after_concat]
    cases call with
    | create other =>
      rw [TargetCalls.unreleased_concat_create, ← ih, ← length_targets, step]
      -- an old target, the new one, or none
      rcases Nat.lt_trichotomy index (after calls).targets.length with hlt | rfl | hgt
      · simp [List.getElem?_append_left hlt, Nat.ne_of_gt hlt]
      · simp [eq_comm]
      · have hnone : (after calls).targets[index]? = none :=
          List.getElem?_eq_none (Nat.le_of_lt hgt)
        rw [List.getElem?_eq_none (by rw [List.length_append]; exact hgt), hnone]
        simp [Nat.ne_of_lt hgt]
    | on i call =>
      simp only [TargetCalls.unreleased_concat_on, ← ih]
      by_cases hi : i = index
      · subst hi
        simp [targets_step_self, TargetCall.writtenTo]
      · simp [targets_step_of_ne _ hi, TargetCall.writtenTo, hi]

theorem closes_iff {call : TargetCall} :
    TargetCalls.Closes calls call name text ↔
      ∃ i, call = .on i .close ∧ (after calls).targets[i]? = some (name, some text) := by
  simp only [TargetCalls.Closes, unreleased_iff]

/-- A call publishes what it closes for the first time, and nothing else is published. -/
theorem published_step (calls : List TargetCall) (call : TargetCall) :
    (∃ name text, ((after calls).step call).published = (name, text) :: (after calls).published ∧
      ∀ n t, TargetCalls.Closes calls call n t ↔ n = name ∧ t = text) ∨
    ((after calls).step call).published = (after calls).published ∧
      ∀ n t, ¬ TargetCalls.Closes calls call n t := by
  simp only [closes_iff]
  cases call with
  | create name => exact .inr ⟨rfl, by simp⟩
  | on i call =>
    simp only [step]
    split
    case h_1 name text hentry =>
      cases call with
      | close => exact .inl ⟨name, text, rfl, by simp [hentry, eq_comm]⟩
      | write more => exact .inr ⟨rfl, by simp⟩
      | abort => exact .inr ⟨rfl, by simp⟩
    case h_2 hreleased =>
      -- a target that was released is not closed for the first time
      refine .inr ⟨rfl, ?_⟩
      rintro name text ⟨j, heq, hentry⟩
      obtain ⟨rfl, -⟩ := TargetCall.on.inj heq
      exact hreleased name text hentry

/-- The latest that was published under a name is what the calls publish. -/
theorem publishes_iff :
    (after calls).published.lookup name = some text ↔ TargetCalls.Publishes calls name text := by
  induction calls using List.reverseRecOn with
  | nil => simp [after, TargetCalls.Publishes]
  | append_singleton calls call ih =>
    rw [after_concat, TargetCalls.publishes_concat, ← ih]
    rcases published_step calls call with ⟨other, text', heq, hcloses⟩ | ⟨heq, hnone⟩
    · by_cases hname : name = other
      · subst hname
        simp [heq, hcloses, eq_comm]
      · simp [heq, hcloses, hname, List.lookup_cons, beq_eq_false_iff_ne.mpr hname]
    · simp [heq, hnone]

end Ledger

/-! ## Factories that follow the ledger -/

/-- What is found in a list with one more item is that item or was there before. -/
theorem getElem?_concat_cases {α : Type} {l : List α} {a b : α} {j : Nat}
    (h : (l ++ [a])[j]? = some b) : l[j]? = some b ∨ j = l.length ∧ b = a := by
  rcases Nat.lt_trichotomy j l.length with hlt | rfl | hgt
  · rw [List.getElem?_append_left hlt] at h
    exact .inl h
  · rw [List.getElem?_concat_length, Option.some.injEq] at h
    exact .inr ⟨rfl, h.symm⟩
  · rw [List.getElem?_eq_none (by rw [List.length_append]; exact hgt)] at h
    cases h

/-- What is found in a list with another item at an index is that item or was there before. -/
theorem getElem?_set_cases {α : Type} {l : List α} {a b : α} {i j : Nat}
    (h : (l.set i a)[j]? = some b) : j ≠ i ∧ l[j]? = some b ∨ j = i ∧ i < l.length ∧ b = a := by
  by_cases hj : i = j
  · subst hj
    have hlt : i < l.length := by simpa using (List.getElem?_eq_some_iff.mp h).1
    rw [List.getElem?_set_self hlt, Option.some.injEq] at h
    exact .inr ⟨rfl, hlt, h.symm⟩
  · rw [List.getElem?_set_ne hj] at h
    exact .inl ⟨Ne.symm hj, h⟩

/-- Targets that agree with the entries of a ledger one by one. None of them was refused. -/
structure Tracked {τ : Type} (agrees : Text → Option Text → τ → Prop)
    (entries : List (Text × Option Text)) (targets : List (Option τ)) : Prop where
  length_eq : targets.length = entries.length
  target : ∀ (i : Nat) (name : Text) (state : Option Text), entries[i]? = some (name, state) →
    ∃ t, targets[i]? = some (some t) ∧ agrees name state t

namespace Tracked

variable {τ : Type} {agrees agrees' : Text → Option Text → τ → Prop} {i : Nat} {t : τ}
  {entries : List (Text × Option Text)} {targets : List (Option τ)} {name : Text}
  {state : Option Text}

theorem absent (h : Tracked agrees entries targets) (hentry : entries[i]? = none) :
    targets[i]? = none := by
  rw [List.getElem?_eq_none_iff] at hentry ⊢
  exact h.length_eq ▸ hentry

/-- One more target. What it is made of may matter to the others. -/
theorem append (h : Tracked agrees entries targets)
    (hothers : ∀ (j : Nat) u, targets[j]? = some (some u) → ∀ n st, agrees n st u → agrees' n st u)
    (ht : agrees' name state t) :
    Tracked agrees' (entries ++ [(name, state)]) (targets ++ [some t]) := by
  refine ⟨by simp [h.length_eq], fun j n st hentry => ?_⟩
  rcases getElem?_concat_cases hentry with hold | ⟨rfl, hnew⟩
  · obtain ⟨u, hu, hagrees⟩ := h.target j n st hold
    have hlt : j < targets.length := (List.getElem?_eq_some_iff.mp hu).1
    exact ⟨u, by rw [List.getElem?_append_left hlt, hu], hothers j u hu n st hagrees⟩
  · obtain ⟨rfl, rfl⟩ := Prod.mk.inj hnew
    exact ⟨t, by rw [← h.length_eq, List.getElem?_concat_length], ht⟩

/-- One target changes with its entry. That may matter to the others. -/
theorem set (h : Tracked agrees entries targets)
    (hothers : ∀ (j : Nat) u, j ≠ i → targets[j]? = some (some u) →
      ∀ n st, agrees n st u → agrees' n st u)
    (ht : agrees' name state t) :
    Tracked agrees' (entries.set i (name, state)) (targets.set i (some t)) := by
  refine ⟨by simp [h.length_eq], fun j n st hentry => ?_⟩
  rcases getElem?_set_cases hentry with ⟨hj, hold⟩ | ⟨rfl, hlt, hnew⟩
  · obtain ⟨u, hu, hagrees⟩ := h.target j n st hold
    exact ⟨u, by rw [List.getElem?_set_ne (Ne.symm hj), hu], hothers j u hj hu n st hagrees⟩
  · obtain ⟨rfl, rfl⟩ := Prod.mk.inj hnew
    exact ⟨t, List.getElem?_set_self (h.length_eq ▸ hlt), ht⟩

/-- One target changes and still agrees with its entry. -/
theorem replace (h : Tracked agrees entries targets) (hentry : entries[i]? = some (name, state))
    (ht : agrees name state t) : Tracked agrees entries (targets.set i (some t)) := by
  obtain ⟨hlt, hget⟩ := List.getElem?_eq_some_iff.mp hentry
  have hsame : entries.set i (name, state) = entries := by rw [← hget, List.set_getElem_self]
  exact hsame ▸ h.set (fun _ _ _ _ _ _ hu => hu) ht

end Tracked

namespace TargetFactory

/-- What holds between the ledger and a factory from the start, and is kept by every call, holds
in the end. -/
theorem run_performAll {σ : Type} (f : TargetFactory (StateM σ))
    (follows : Ledger → List (Option f.Target) → σ → Prop) {calls : List TargetCall} {s : σ}
    (hstart : follows {} [] s)
    (hstep : ∀ call ∈ calls, ∀ ledger targets s, follows ledger targets s →
      ∃ targets' s', (f.perform targets call).run s = (targets', s') ∧
        follows (ledger.step call) targets' s') :
    ∃ targets s', (f.performAll calls).run s = (targets, s') ∧
      follows (Ledger.after calls) targets s' := by
  unfold performAll Ledger.after
  -- by induction over the calls, from any targets and any ledger
  generalize ([] : List (Option f.Target)) = targets at hstart ⊢
  generalize ({} : Ledger) = ledger at hstart ⊢
  induction calls generalizing ledger targets s with
  | nil => exact ⟨targets, s, rfl, hstart⟩
  | cons call calls ih =>
    obtain ⟨targets', s', hrun, hfollows⟩ :=
      hstep call List.mem_cons_self ledger targets s hstart
    obtain ⟨targets'', s'', hrest, hend⟩ :=
      ih (fun c hc => hstep c (List.mem_cons_of_mem _ hc)) targets' (ledger.step call) hfollows
    refine ⟨targets'', s'', ?_, hend⟩
    rw [List.foldlM_cons]
    exact (run_bind hrun _).trans hrest

end TargetFactory

/-! ## Units in memory -/

/-- A target in memory that agrees with its entry. -/
structure MemoryTarget.Agrees (name : Text) (state : Option Text) (t : MemoryTarget) : Prop where
  name_eq : t.name = name
  closed_eq : t.closed = state.isNone
  buffer_eq : ∀ text ∈ state, t.buffer = text

namespace MemoryUnits

/-- Units in memory that agree with the ledger. -/
structure Follows (ledger : Ledger) (targets : List (Option MemoryTarget)) (units : MemoryUnits) :
    Prop where
  tracked : Tracked MemoryTarget.Agrees ledger.targets targets
  published : ∀ name text,
    (name, text) ∈ units.published ↔ ledger.published.lookup name = some text

theorem mem_publish {units : MemoryUnits} {name text name' text' : Text} :
    (name', text') ∈ (units.publish name text).published ↔
      name' = name ∧ text' = text ∨ name' ≠ name ∧ (name', text') ∈ units.published := by
  simp [publish, or_comm, and_comm]

section

variable {ledger : Ledger} {targets : List (Option MemoryTarget)} {units : MemoryUnits}
  {t : MemoryTarget}

theorem run_close {t' : MemoryTarget} {units' : MemoryUnits} (label : Text)
    (h : t.close units = (units', t')) :
    ((factory label).use t .close).run units = ((none, t'), units') := by
  have hrun : ((factory label).use t .close).run units =
      ((none, (t.close units).2), (t.close units).1) := rfl
  rw [hrun, h]

/-- Nothing that is done with a released target is published. -/
theorem use_released (label : Text) (units : MemoryUnits) (hclosed : t.closed = true)
    (call : Call) :
    ∃ t', ((factory label).use t call).run units = ((none, t'), units) ∧
      t'.name = t.name ∧ t'.closed = true := by
  cases call with
  | write more => exact ⟨t.write more, rfl, rfl, hclosed⟩
  | close => exact ⟨t, run_close label (if_pos hclosed), rfl, hclosed⟩
  | abort => exact ⟨t.abort, rfl, rfl, rfl⟩

/-- Every call keeps units in memory in agreement with the ledger. -/
theorem Follows.step (h : Follows ledger targets units) (label : Text) (call : TargetCall) :
    ∃ targets' units', ((factory label).perform targets call).run units = (targets', units') ∧
      Follows (ledger.step call) targets' units' := by
  cases call with
  | create name =>
    refine ⟨_, units, TargetFactory.run_perform_create rfl, ?_, h.published⟩
    exact h.tracked.append (fun _ _ _ _ _ hu => hu) ⟨rfl, rfl, by simp⟩
  | on i call =>
    -- the target does not exist, was released, or still keeps a text
    rcases hentry : ledger.targets[i]? with _ | ⟨name, _ | text⟩
    · refine ⟨targets, units, TargetFactory.run_perform_absent (h.tracked.absent hentry), ?_⟩
      simpa [Ledger.step, hentry] using h
    · obtain ⟨t, ht, hagrees⟩ := h.tracked.target i name none hentry
      obtain ⟨t', huse, hname, hclosed⟩ := use_released label units hagrees.closed_eq call
      refine ⟨_, units, TargetFactory.run_perform_on ht huse, ?_⟩
      simp only [Ledger.step, hentry]
      refine ⟨h.tracked.replace hentry ⟨hname.trans hagrees.name_eq, hclosed, by simp⟩, h.published⟩
    · obtain ⟨t, ht, hagrees⟩ := h.tracked.target i name (some text) hentry
      simp only [Ledger.step, hentry]
      have hopen : ¬ t.closed = true := by simp [hagrees.closed_eq]
      have hbuffer : t.buffer = text := hagrees.buffer_eq text rfl
      cases call with
      | write more =>
        refine ⟨_, units, TargetFactory.run_perform_on ht rfl, ?_, h.published⟩
        refine h.tracked.set (fun _ _ _ _ _ _ hu => hu) ⟨hagrees.name_eq, hagrees.closed_eq, ?_⟩
        simp [MemoryTarget.write, hbuffer]
      | close =>
        have hclose : t.close units = (units.publish t.name t.buffer, { t with closed := true }) :=
          if_neg hopen
        refine ⟨_, _, TargetFactory.run_perform_on ht (run_close label hclose), ?_,
          fun name' text' => ?_⟩
        · exact h.tracked.set (fun _ _ _ _ _ _ hu => hu) ⟨hagrees.name_eq, rfl, by simp⟩
        · rw [mem_publish, h.published, hagrees.name_eq, hbuffer]
          -- a close publishes under its own name and leaves the other names alone
          by_cases hname : name' = name
          · simp [hname, Ledger.use, eq_comm]
          · simp [hname, Ledger.use, List.lookup_cons, beq_eq_false_iff_ne.mpr hname]
      | abort =>
        refine ⟨_, units, TargetFactory.run_perform_on ht rfl, ?_, h.published⟩
        exact h.tracked.set (fun _ _ _ _ _ _ hu => hu) ⟨hagrees.name_eq, rfl, by simp⟩

end

/-- The units in memory are those that the calls publish. -/
theorem mem_results_iff (label : Text) (calls : List TargetCall) :
    ∃ targets units, ((factory label).performAll calls).run ⟨label, []⟩ = (targets, units) ∧
      ∀ name text, (name, text) ∈ units.results ↔ TargetCalls.Publishes calls name text := by
  have hstart : Follows {} [] ⟨label, []⟩ := ⟨⟨rfl, by simp⟩, by simp⟩
  obtain ⟨targets, units, hrun, hfollows⟩ := (factory label).run_performAll Follows hstart
    fun call _ ledger targets units h => h.step label call
  refine ⟨targets, units, hrun, fun name text => ?_⟩
  rw [results, List.mem_mergeSort, hfollows.published, Ledger.publishes_iff]

end MemoryUnits

end AdtCompiler
