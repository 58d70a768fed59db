import TableDdl.Text.CharClass

/-!
# Quoted text

How a message shows a text: between quotation marks, on one line, with everything that would not be
seen written as an escape.
-/

namespace TableDdl.Text

/-- The escape of a code point that is not shown as it is: `\x`, `\u` or `\U` and its number, with
as few hexadecimal digits as the letter admits. -/
def numberEscape (p : CodePoint) : Text :=
  if p.value < 0x100 then "\\x" ++ hex 2 p.value
  else if p.value < 0x10000 then "\\u" ++ hex 4 p.value
  else "\\U" ++ hex 8 p.value

/-- A code point as it stands in a text between given quotation marks. -/
def quotedPoint (mark : Char) (p : CodePoint) : Text :=
  match p with
  | .scalar '\\' => "\\\\"
  | .scalar '\n' => "\\n"
  | .scalar '\r' => "\\r"
  | .scalar '\t' => "\\t"
  | p =>
    if p = .scalar mark then ['\\', mark]
    else if p.isUnprintable then numberEscape p
    else [p]

/-- The quotation mark of a text: a single one, unless the text holds single ones and no double
one. -/
def quotationMark (t : Text) : Char :=
  if .scalar '\x27' ∈ t ∧ .scalar '"' ∉ t then '"' else '\x27'

/-- The text between quotation marks. -/
def quoted (t : Text) : Text :=
  let mark := t.quotationMark
  .scalar mark :: t.flatMap (quotedPoint mark) ++ [.scalar mark]

end TableDdl.Text
