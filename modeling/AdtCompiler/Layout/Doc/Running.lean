import AdtCompiler.Text.Letter
import AdtCompiler.Text.Utf8

/-!
# Running text

The text of a paragraph. Doubled single quotation marks stand for double ones, but not inside
addresses. A text in brackets may lead somewhere.
-/

namespace AdtCompiler.Layout

namespace DocText

/-- The schemes of addresses. -/
def schemes : List Text := ["file", "ftp", "gopher", "http", "https", "mailto", "nntp"]

/-! ## Addresses in running text -/

/-- Whether a byte can stand inside an address, but not at its end. -/
def isPunctuation (b : UInt8) : Bool := (".,:;?!" : Text).contains b

/-- Whether a byte is an ASCII letter or digit. -/
def isAlphanumeric (b : UInt8) : Bool :=
  Text.isDigit b || (65 ≤ b && b ≤ 90) || (97 ≤ b && b ≤ 122)

/-- Whether a byte can stand in the name of a host. -/
def isHostByte (b : UInt8) : Bool := isAlphanumeric b || ("_@-.[]:" : Text).contains b

/-- Whether a byte can stand in a path. -/
def isPathByte (b : UInt8) : Bool :=
  isAlphanumeric b || ("$'()*+&#=@~_/-[]\x7b\x7d%" : Text).contains b

/-- The length of a path: brackets have to match, and punctuation does not end it. `expected`
holds the brackets that are open, `length` counts what was read, and `good` is the longest path
so far. -/
def pathLength (expected : Text) (length good : Nat) : Text → Nat
  | [] => good
  | b :: rest =>
    if isPunctuation b then pathLength expected (length + 1) good rest
    else if !isPathByte b then good
    else
      let next (expected : Text) : Nat :=
        pathLength expected (length + 1) (if expected.isEmpty then length + 1 else good) rest
      match b with
      | 0x28 => next (0x29 :: expected)
      | 0x7B => next (0x7D :: expected)
      | 0x5B => next (0x5D :: expected)
      | 0x29 | 0x7D | 0x5D => if expected.head? = some b then next expected.tail else good
      | _ => next expected

/-- The length of the address at the front of a text, or zero. -/
def addressLength (t : Text) : Nat :=
  match Text.cut? "://" (t.take 9) with
  | none => 0
  | some (scheme, _) =>
    let rest := t.drop (scheme.length + 3)
    if !schemes.contains scheme then 0
    else
      match rest with
      | [] => 0
      | b :: _ =>
        if !isHostByte b ∨ isPunctuation b then 0
        else
          let host := rest.takeWhile isHostByte
          let host := (host.reverse.dropWhile isPunctuation).reverse
          scheme.length + 3 + host.length + pathLength [] 0 0 (rest.drop host.length)

/-- The length of the name at the front of a text, or zero. -/
def nameLength (t : Text) : Nat :=
  let isPart (r : Text.Rune) : Bool :=
    match r with
    | .scalar c => if c < 0x80 then isAlphanumeric c.toUInt8 || c == 0x5F else Text.isLetter c
    | .stray _ => false
  if t.head?.any Text.isDigit then 0
  else ((t.runes.takeWhile isPart).flatMap Text.Rune.bytes).length

/-- Running text with quotation marks in place of doubled single ones. Addresses stay as they
are where `addressed` holds. Every step takes a byte away, so the length of the text is fuel
enough. -/
def quoteMarks (addressed : Bool) : (fuel : Nat) → Text → Text
  | 0, t => t
  | _ + 1, [] => []
  | fuel + 1, b :: rest =>
    let t := b :: rest
    let skip := if addressed then max (addressLength t) (nameLength t) else 0
    if 0 < skip then t.take skip ++ quoteMarks addressed fuel (t.drop skip)
    else if ("```" : Text).isPrefixOf t then
      let ticks := t.takeWhile (· == Text.byte '`')
      ticks ++ quoteMarks addressed fuel (t.drop ticks.length)
    else if ("``" : Text).isPrefixOf t then "“" ++ quoteMarks addressed fuel (t.drop 2)
    else if ("''" : Text).isPrefixOf t then "”" ++ quoteMarks addressed fuel (t.drop 2)
    else b :: quoteMarks addressed fuel rest

/-- Running text that is being written: what was read since the last link, backwards, and what
was read of it behind an opening bracket. -/
structure Running where
  done : Text := []
  read : Text := []
  bracket : Option Text := none
  used : List Text := []

namespace Running

/-- Writes what was read. -/
def flush (r : Running) (t : Text) : Text :=
  let t := t.reverse
  r.done ++ quoteMarks true t.length t

/-- Reads a byte; `links` are the texts that lead somewhere. -/
def step (links : List Text) (r : Running) (b : UInt8) : Running :=
  if b = 0x5B then
    match r.bracket with
    | none => { r with bracket := some [] }
    | some inside => { r with read := inside ++ 0x5B :: r.read, bracket := some [] }
  else
    match r.bracket with
    | none => { r with read := b :: r.read }
    | some inside =>
      if b = 0x5D then
        let name := inside.reverse
        let plain := name.map fun c => if c = 10 ∨ c = 9 then 32 else c
        if links.contains plain then
          ⟨r.flush r.read ++ "[" ++ quoteMarks false name.length name ++ "]", [], none,
            plain :: r.used⟩
        else { r with read := 0x5D :: inside ++ 0x5B :: r.read, bracket := none }
      else { r with bracket := some (b :: inside) }

/-- Writes the end. -/
def finish (r : Running) : Text :=
  match r.bracket with
  | none => r.flush r.read
  | some inside => r.flush (inside ++ 0x5B :: r.read)

end Running

/-- Running text as it is written, and the texts in brackets that lead somewhere. -/
def running (links : List Text) (t : Text) : Text × List Text :=
  let r := t.foldl (Running.step links) {}
  (r.finish, r.used)

end DocText

end AdtCompiler.Layout
