import AdtCompiler.Text.Blank
import AdtCompiler.Text.Printable
import AdtCompiler.Text.Quoted

/-!
# Import paths

The path of an import is a string: between quotation marks, with escapes behind backslashes, or
between back quotes, where it stands as it is. Paths fall into groups, by which imports are set
apart.
-/

namespace AdtCompiler.Layout

/-! ## Strings -/

/-- The value of digits in a base. -/
def digitsValue? (base : Nat) (t : Text) : Option Nat :=
  t.foldlM (fun n b => (Text.hexValue? b).bind fun d =>
    if d < base then some (n * base + d) else none) 0

/-- The number that a fixed count of digits at the front of a text stands for, and the rest. -/
def leadingDigits? (base count : Nat) (t : Text) : Option (Nat × Text) :=
  if t.length < count then none
  else (digitsValue? base (t.take count)).map fun n => (n, t.drop count)

/-- Whether a number is the code of a character. -/
def isCode (n : Nat) : Bool := n < 0xD800 || (0xDFFF < n && n < 0x110000)

/-- What the escape at the front of a text stands for, and the rest. The backslash is read
already. -/
def escape? : Text → Option (Text × Text)
  | [] => none
  | b :: rest =>
    match Char.ofNat b.toNat with
    | 'a' => some ([7], rest)
    | 'b' => some ([8], rest)
    | 'f' => some ([12], rest)
    | 'n' => some ([10], rest)
    | 'r' => some ([13], rest)
    | 't' => some ([9], rest)
    | 'v' => some ([11], rest)
    | '\\' => some ([92], rest)
    | '"' => some ([34], rest)
    | 'x' => (leadingDigits? 16 2 rest).map fun (n, rest) => ([n.toUInt8], rest)
    | 'u' => (leadingDigits? 16 4 rest).bind fun (n, rest) =>
        if isCode n then some (Text.ofCode n, rest) else none
    | 'U' => (leadingDigits? 16 8 rest).bind fun (n, rest) =>
        if isCode n then some (Text.ofCode n, rest) else none
    | _ => (leadingDigits? 8 3 (b :: rest)).bind fun (n, rest) =>
        if n < 256 then some ([n.toUInt8], rest) else none

/-- Reads a string behind its opening quotation mark: what it stands for, and the rest behind the
closing one. Every step takes a byte away, so a fuel of the length is enough. -/
def quotedFrom? : (fuel : Nat) → Text → Option (Text × Text)
  | 0, _ => none
  | _ + 1, [] => none
  | fuel + 1, b :: rest =>
    if b = 34 then some ([], rest)
    else if b = 10 then none
    else
      let piece := if b = 92 then escape? rest else some ([b], rest)
      piece.bind fun (bytes, rest) =>
        (quotedFrom? fuel rest).map fun (more, rest) => (bytes ++ more, rest)

/-- What a string stands for; nothing, if it is no string. -/
def unquote : Text → Text
  | 34 :: rest => ((quotedFrom? (rest.length + 1) rest).getD ([], [])).1
  | 96 :: rest => rest.dropLast
  | _ => []

/-! ## Paths -/

/-- The characters that no path of an import holds. -/
def isBarredInPath (c : Nat) : Bool :=
  Text.isBlank c || !Text.isPrintable c || c == Text.replacement ||
    (Text.runes "!\"#$%&'()*,:;<=>?[\\]^\x7b|\x7d`").contains (.scalar c)

/-- A string in the spelling that paths are written in; one that can be no path stays as it is. -/
def pathSpelling (literal : Text) : Text :=
  let path := unquote literal
  if path.isEmpty ∨ (path.runes.any fun r => isBarredInPath r.code) then literal else path.quoted

/-- The group of a path: the library that comes with the language, then what other hosts
provide, then what one particular platform provides. -/
def pathGroup (path : Text) : Nat :=
  if ("appengine" : Text).isPrefixOf path then 2
  else if (path.takeWhile (· != Text.byte '/')).contains (Text.byte '.') then 1
  else 0

end AdtCompiler.Layout
