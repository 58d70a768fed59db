import TableDdl.Command.Toolkit
import TableDdl.Text.Utf8

/-!
# Encodings

The encodings in which texts are written here: UTF-8, which takes every row of characters, and two
that take few code points.
-/

namespace TableDdl.Encoding

/-- UTF-8, which takes no surrogates. -/
def utf8 : Encoding where
  name := "utf-8"
  encode t := (Utf8.encodeText t).mapError Utf8.Unencodable.message

/-- UTF-8 with a question mark in the place of each surrogate. -/
def utf8Marked : Encoding where
  name := "utf-8"
  encode t := .ok (Utf8.encode (t.map fun p => p.char?.getD '?'))

/-- UTF-8 that takes every text, as the stream for errors does: a surrogate is written by its number.
-/
def utf8Spelled (t : Text) : List UInt8 :=
  Utf8.encode ((Utf8.spellSurrogates t).filterMap CodePoint.char?)

/-! ## Encodings of few code points -/

/-- A code point beyond ASCII by its number. -/
def spelled (p : CodePoint) : Text :=
  if p.value < 0x100 then "\\x" ++ Text.hex 2 p.value
  else if p.value < 0x10000 then "\\u" ++ Text.hex 4 p.value
  else "\\U" ++ Text.hex 8 p.value

/-- The complaint of an encoding about the first code points of a text that reach its limit. -/
def limitComplaint (name : String) (limit : Nat) (t : Text) : Text :=
  let position := (t.takeWhile (·.value < limit)).length
  let refused := (t.drop position).takeWhile (limit ≤ ·.value)
  "'" ++ name ++ "' codec can't encode " ++
    (match refused with
    | [p] => "character '" ++ spelled p ++ "' in position " ++ Text.ofNat position
    | _ =>
      "characters in position " ++ Text.ofNat position ++ "-" ++
        Text.ofNat (position + refused.length - 1)) ++
    ": ordinal not in range(" ++ Text.ofNat limit ++ ")"

/-- The encoding that writes the code points below a limit as single bytes. -/
def below (name : String) (limit : Nat) : Encoding where
  name := name
  encode t :=
    if t.all (·.value < limit) then .ok (t.map (·.value.toUInt8))
    else .error (limitComplaint name limit t)

/-- ASCII, which takes the first 128 code points. -/
def ascii : Encoding := below "ascii" 0x80

/-- Latin-1, which takes the first 256 code points. -/
def latin1 : Encoding := below "latin-1" 0x100

end TableDdl.Encoding
