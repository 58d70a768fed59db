import TableDdl.Json.Basic
import TableDdl.Number.Shortest
import TableDdl.Text.Quoted

/-!
# Writing JSON values

A value is written on one line, with a space after each comma and colon. Two spellings of its parts
are in use: that of a JSON text, which is in ASCII throughout, and that of a message.
-/

namespace TableDdl.Json

/-- The spelling of the parts of a value. -/
structure Spelling where
  null : String
  bool : Bool → String
  real : Binary64.Names
  text : Text → Text

mutual

/-- A value in a spelling. -/
def print (s : Spelling) : Json → Text
  | .null => s.null
  | .bool value => s.bool value
  | .int value => Text.ofInt value
  | .real value => value.toText s.real
  | .text value => s.text value
  | .array items => "[" ++ Text.join ", " (printItems s items) ++ "]"
  | .object members => "\x7b" ++ Text.join ", " (printMembers s members) ++ "\x7d"

/-- The items of an array. -/
def printItems (s : Spelling) : List Json → List Text
  | [] => []
  | item :: rest => print s item :: printItems s rest

/-- The members of an object, each with its key. -/
def printMembers (s : Spelling) : List (Text × Json) → List Text
  | [] => []
  | (key, value) :: rest => (s.text key ++ ": " ++ print s value) :: printMembers s rest

end

/-- A 16-bit unit by its number. -/
def unitEscape (n : Nat) : Text :=
  "\\u" ++ Text.hex 4 n

/-- A code point between the quotation marks of a JSON text. What is not a visible ASCII character
is written by its number, or by the numbers of its two halves above U+FFFF. -/
def escapePoint (p : CodePoint) : Text :=
  match p with
  | .scalar '"' => "\\\""
  | .scalar '\\' => "\\\\"
  | .scalar '\n' => "\\n"
  | .scalar '\r' => "\\r"
  | .scalar '\t' => "\\t"
  | .scalar '\x0c' => "\\f"
  | .scalar '\x08' => "\\b"
  | p =>
    if 0x20 ≤ p.value ∧ p.value < 0x7F then [p]
    else if p.value < 0x10000 then unitEscape p.value
    else
      let offset := p.value - 0x10000
      unitEscape (0xD800 + offset / 0x400) ++ unitEscape (0xDC00 + offset % 0x400)

/-- A text between the quotation marks of a JSON text. -/
def quote (t : Text) : Text :=
  "\"" ++ t.flatMap escapePoint ++ "\""

/-- The spelling of a JSON text. -/
def Spelling.document : Spelling where
  null := "null"
  bool := fun value => if value then "true" else "false"
  real := ⟨"NaN", "Infinity"⟩
  text := quote

/-- The spelling of a message. -/
def Spelling.message : Spelling where
  null := "None"
  bool := fun value => if value then "True" else "False"
  real := ⟨"nan", "inf"⟩
  text := Text.quoted

/-- The JSON text of a value. -/
def write (value : Json) : Text :=
  print .document value

/-- A value as a message shows it. -/
def display (value : Json) : Text :=
  print .message value

/-- How a message names the sort of a value. -/
def sortName : Json → String
  | .null => "NoneType"
  | .bool _ => "bool"
  | .int _ => "int"
  | .real _ => "float"
  | .text _ => "str"
  | .array _ => "list"
  | .object _ => "dict"

end TableDdl.Json
