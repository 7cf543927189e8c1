import AdtCompiler.Run.Options
import Mathlib.Algebra.Group.Nat.Defs
import Mathlib.Data.Set.Function

/-!
# Framed parts

A part behind its length can be told from what follows it, so the framed text of several parts
determines the parts, as long as each length fits into the four bytes that hold it. Two lists of
parts with one digest are then the same list, unless the hash collides on their framed texts.
Some texts collide, since there are more texts than digests, so that freedom from collisions is a
property of a set of texts.

## Contents

- `framed_inj`: parts with the same framed text are the same
- `combine_inj`: parts with the same digest are the same, where the hash is free of collisions
- `parts_told_by_digest`: the format of the framed text, and what the key of a generation tells
-/

namespace AdtCompiler.Digest

/-- The text of a digest has thirty-two bytes. -/
theorem length_sha256 (message : Text) : (sha256 message).length = 32 := rfl

theorem wordBytes_injective : Function.Injective wordBytes := by
  intro u v h
  simp only [wordBytes, List.cons.injEq, and_true] at h
  obtain ⟨h₃, h₂, h₁, h₀⟩ := h
  -- The four bytes are the digits of the word to the base 256.
  have digits : ∀ w : UInt32, w.toNat = (w >>> 24).toUInt8.toNat * 2 ^ 24 +
      (w >>> 16).toUInt8.toNat * 2 ^ 16 + (w >>> 8).toUInt8.toNat * 2 ^ 8 + w.toUInt8.toNat := by
    intro w
    have hw := w.toNat_lt
    simp [Nat.shiftRight_eq_div_pow]
    omega
  rw [← UInt32.toNat_inj, digits u, digits v, h₃, h₂, h₁, h₀]

/-- A part behind its length ends where the length says. -/
theorem frame_append_inj {a b s t : Text} (ha : a.length < 2 ^ 32) (hb : b.length < 2 ^ 32)
    (h : frame a ++ s = frame b ++ t) : a = b ∧ s = t := by
  simp only [frame, List.append_assoc] at h
  obtain ⟨hword, hrest⟩ := List.append_inj h rfl
  have hlength : a.length = b.length := by
    have hwords : a.length % 2 ^ 32 = b.length % 2 ^ 32 := by
      simpa using congrArg UInt32.toNat (wordBytes_injective hword)
    rwa [Nat.mod_eq_of_lt ha, Nat.mod_eq_of_lt hb] at hwords
  exact List.append_inj hrest hlength

theorem frame_ne_nil (part : Text) : frame part ≠ [] := by
  simp [frame, wordBytes]

/-- Parts with the same framed text are the same, however many there are. -/
theorem framed_inj {parts others : List Text} (hp : ∀ p ∈ parts, p.length < 2 ^ 32)
    (ho : ∀ p ∈ others, p.length < 2 ^ 32) (h : framed parts = framed others) :
    parts = others := by
  induction parts generalizing others with
  | nil =>
    cases others with
    | nil => rfl
    | cons b bs => simp [framed, frame_ne_nil] at h
  | cons a as ih =>
    cases others with
    | nil => simp [framed, frame_ne_nil] at h
    | cons b bs =>
      simp only [List.forall_mem_cons] at hp ho
      simp only [framed, List.flatMap_cons] at h
      obtain ⟨rfl, hrest⟩ := frame_append_inj hp.1 ho.1 h
      rw [ih hp.2 ho.2 hrest]

/-- Parts with the same digest are the same, if the hash is free of collisions on texts that
include their framed ones. -/
theorem combine_inj {texts : Set Text} (free : texts.InjOn sha256) {parts others : List Text}
    (hp : ∀ p ∈ parts, p.length < 2 ^ 32) (ho : ∀ p ∈ others, p.length < 2 ^ 32)
    (hparts : framed parts ∈ texts) (hothers : framed others ∈ texts)
    (h : combine parts = combine others) : parts = others :=
  framed_inj hp ho (free hparts hothers h)

/-! ## The format, and keys of generations -/

/-- A number in four bytes, the highest first; what is beyond them is lost. -/
def lengthBytes (n : Nat) : Text :=
  [(n / 2 ^ 24).toUInt8, (n / 2 ^ 16).toUInt8, (n / 2 ^ 8).toUInt8, n.toUInt8]

theorem wordBytes_toUInt32 (n : Nat) : wordBytes n.toUInt32 = lengthBytes n := by
  simp only [wordBytes, lengthBytes, List.cons.injEq, and_true, ← UInt8.toNat_inj]
  -- a byte forgets whether the word was cut off before or after the shift
  refine ⟨?_, ?_, ?_, by simp⟩
  all_goals
    simp [Nat.shiftRight_eq_div_pow]
    omega

theorem framed_eq (parts : List Text) :
    framed parts = parts.flatMap fun p => lengthBytes p.length ++ p :=
  congrArg parts.flatMap (funext fun p => congrArg (· ++ p) (wordBytes_toUInt32 p.length))

/-- **Framed parts cannot be confused.** A digest of parts is that of one text in which each part
stands behind its length in four bytes, and that text tells the parts, however many there are and
even if some are empty. So two generations with one key have the same content digest, back end,
version, package and destination, unless the hash collides on their two texts. -/
theorem parts_told_by_digest :
    (∀ parts : List Text,
      combine parts = sha256 (parts.flatMap fun p => lengthBytes p.length ++ p)) ∧
    (∀ parts others : List Text, (∀ p ∈ parts, p.length < 2 ^ 32) →
      (∀ p ∈ others, p.length < 2 ^ 32) →
      ((parts.flatMap fun p => lengthBytes p.length ++ p) =
        (others.flatMap fun p => lengthBytes p.length ++ p) ↔ parts = others)) ∧
    ∀ (s s' : Session) (content content' destination destination' : Text),
      (∀ p ∈ s.keyParts content destination, p.length < 2 ^ 32) →
      (∀ p ∈ s'.keyParts content' destination', p.length < 2 ^ 32) →
      Set.InjOn sha256 {framed (s.keyParts content destination),
        framed (s'.keyParts content' destination')} →
      s.cacheKey content destination = s'.cacheKey content' destination' →
      content = content' ∧ s.backend.name = s'.backend.name ∧
        s.options.versionText = s'.options.versionText ∧
        s.options.goPackage = s'.options.goPackage ∧ destination = destination' := by
  refine ⟨fun parts => congrArg sha256 (framed_eq parts), fun parts others hp ho => ?_, ?_⟩
  · rw [← framed_eq, ← framed_eq]
    exact ⟨framed_inj hp ho, congrArg framed⟩
  · intro s s' content content' destination destination' hp ho free hkey
    have hparts : s.keyParts content destination = s'.keyParts content' destination' :=
      combine_inj free hp ho (.inl rfl) (.inr rfl) hkey
    simpa only [Session.keyParts, List.cons.injEq, and_true] using hparts

/-- Parts that make the same text when they are put together, and empty parts. -/
example : framed ["ab", "c"] ≠ framed ["a", "bc"] ∧ framed [[]] ≠ framed [[], []] := by decide

/-- Sessions that differ in the place of their caches only. -/
theorem parts_told_by_digest_moved :
    let s : Session := ⟨{ version := "1", cacheDir := "a" }, .java⟩
    let s' : Session := ⟨{ version := "1", cacheDir := "b" }, .java⟩
    (∀ p ∈ s.keyParts (sha256 []) "out", p.length < 2 ^ 32) ∧
    (∀ p ∈ s'.keyParts (sha256 []) "out", p.length < 2 ^ 32) ∧
    Set.InjOn sha256 {framed (s.keyParts (sha256 []) "out"),
      framed (s'.keyParts (sha256 []) "out")} ∧
    s.cacheKey (sha256 []) "out" = s'.cacheKey (sha256 []) "out" ∧
    s.options.versionText = s'.options.versionText := by
  intro s s'
  have hshort : ∀ p ∈ s.keyParts (sha256 []) "out", p.length < 2 ^ 32 := by decide +kernel
  have hfree : Set.InjOn sha256 {framed (s.keyParts (sha256 []) "out"),
      framed (s'.keyParts (sha256 []) "out")} := by
    rintro t (rfl | rfl) u (rfl | rfl) - <;> rfl
  obtain ⟨-, -, hversion, -⟩ := parts_told_by_digest.2.2 s s' _ _ _ _ hshort hshort hfree rfl
  exact ⟨hshort, hshort, hfree, rfl, hversion⟩

end AdtCompiler.Digest
