import AdtCompiler.Digest.Sha256

/-!
# Digests of several parts

Each part is preceded by its length, so that parts cannot flow into each other: the parts `ab`
and `c` differ from `a` and `bc`.
-/

namespace AdtCompiler.Digest

/-- A part behind its length, which is written in four bytes, the highest first. -/
def frame (part : Text) : Text := wordBytes part.length.toUInt32 ++ part

/-- All parts, each behind its length. -/
def framed (parts : List Text) : Text := parts.flatMap frame

/-- The digest of several parts. -/
def combine (parts : List Text) : Text := sha256 (framed parts)

end AdtCompiler.Digest
