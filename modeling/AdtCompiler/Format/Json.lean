import AdtCompiler.Text.Integer
import AdtCompiler.Text.Utf8

/-!
# JSON texts

Values of JSON and their text, with every member of an array or an object on a line of its own,
indented by two blanks for each level. Characters that have a meaning in markup are escaped,
and a byte that is not UTF-8 becomes the character that stands for such bytes.
-/

namespace AdtCompiler.Format

/-- A JSON value. The members of an object keep their order. -/
inductive Json where
  | null
  | bool (value : Bool)
  | num (value : Int)
  | str (value : Text)
  /-- A number given by its text. -/
  | raw (text : Text)
  | arr (items : List Json)
  | obj (members : List (String × Json))
deriving Inhabited

namespace Json

/-- A unit of a text as it is written in a JSON string. -/
def runeText : Text.Rune → Text
  | .stray _ => Text.ofCode 0xFFFD
  | .scalar c =>
    match c with
    | 0x22 => "\\\""
    | 0x5C => "\\\\"
    | 0x08 => "\\b"
    | 0x0C => "\\f"
    | 0x0A => "\\n"
    | 0x0D => "\\r"
    | 0x09 => "\\t"
    | c =>
      if c < 0x20 ∨ c = 0x3C ∨ c = 0x3E ∨ c = 0x26 ∨ c = 0x2028 ∨ c = 0x2029 then
        "\\u" ++ Text.hexFixed 4 c
      else Text.ofCode c

/-- A text as a JSON string. -/
def quoted (t : Text) : Text := "\"" ++ t.runes.flatMap runeText ++ "\""

/-- A line break and the indentation of a level. -/
def lineStart (level : Nat) : Text := Text.byte '\n' :: List.replicate (2 * level) 32

mutual

/-- The text of a value whose lines are indented by a level. -/
def render (level : Nat) : Json → Text
  | null => "null"
  | bool true => "true"
  | bool false => "false"
  | num n => Text.ofInt n
  | str t => quoted t
  | raw t => t
  | arr [] => "[]"
  | arr (item :: rest) =>
    "[" ++ lineStart (level + 1) ++ render (level + 1) item ++ renderItems (level + 1) rest ++
      lineStart level ++ "]"
  | obj [] => "\x7b\x7d"
  | obj ((name, value) :: rest) =>
    "\x7b" ++ lineStart (level + 1) ++ quoted name ++ ": " ++ render (level + 1) value ++
      renderMembers (level + 1) rest ++ lineStart level ++ "\x7d"

/-- The items of an array behind the first. -/
def renderItems (level : Nat) : List Json → Text
  | [] => []
  | item :: rest => "," ++ lineStart level ++ render level item ++ renderItems level rest

/-- The members of an object behind the first. -/
def renderMembers (level : Nat) : List (String × Json) → Text
  | [] => []
  | (name, value) :: rest =>
    "," ++ lineStart level ++ quoted name ++ ": " ++ render level value ++ renderMembers level rest

end

/-- The text of a value, ended by a line break. -/
def text (value : Json) : Text := value.render 0 ++ "\n"

end Json

end AdtCompiler.Format
