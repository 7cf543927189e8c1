import AdtCompiler.Text.Basic

/-!
# Base64

Three bytes are written as four characters of six bits each; padding fills the last group.
-/

namespace AdtCompiler.Text

/-- The character of six bits. -/
def sixBits (n : Nat) : UInt8 :=
  if n < 26 then (65 + n).toUInt8
  else if n < 52 then (71 + n).toUInt8
  else if n < 62 then (n - 4).toUInt8
  else if n = 62 then byte '+'
  else byte '/'

/-- The bytes of a text in groups of six bits. -/
def base64 : Text → Text
  | a :: b :: c :: rest =>
    let n := a.toNat * 65536 + b.toNat * 256 + c.toNat
    [sixBits (n / 262144), sixBits (n / 4096 % 64), sixBits (n / 64 % 64), sixBits (n % 64)] ++
      base64 rest
  | [a, b] =>
    let n := a.toNat * 65536 + b.toNat * 256
    [sixBits (n / 262144), sixBits (n / 4096 % 64), sixBits (n / 64 % 64), byte '=']
  | [a] =>
    let n := a.toNat * 65536
    [sixBits (n / 262144), sixBits (n / 4096 % 64), byte '=', byte '=']
  | [] => []

end AdtCompiler.Text
