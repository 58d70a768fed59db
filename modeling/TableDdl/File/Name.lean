import TableDdl.File.Path
import TableDdl.Text.Utf8

/-!
# Names of files

The operating system knows a name in a directory as a row of bytes. A text names a file by its
UTF-8, and 128 of the surrogates stand for one byte each, so that every row of bytes has a text:
`toText` gives it, and `ofText` leads back.
-/

namespace TableDdl

/-- A name in a directory. -/
abbrev FileName := List UInt8

namespace FileName

/-- The bytes that a name may have at most. -/
def maxSize : Nat := 255

/-- The place among the surrogates of the one that stands for the byte zero. -/
def byteBase : Nat := 0x400

/-- The byte that a surrogate stands for; only bytes beyond ASCII have a surrogate. -/
def byte? : CodePoint → Option UInt8
  | .scalar _ => none
  | .surrogate offset =>
    if byteBase + 0x80 ≤ offset.val && offset.val ≤ byteBase + 0xFF then
      some (offset.val - byteBase).toUInt8
    else none

/-- The surrogate that stands for a byte. -/
def ofByte (b : UInt8) : CodePoint :=
  .surrogate ⟨byteBase + b.toNat, by have := b.toNat_lt; simp only [byteBase]; omega⟩

/-- The test for a code point that may be part of a name. -/
def isNamePoint (p : CodePoint) : Bool :=
  p.char?.isSome || (byte? p).isSome

/-- The bytes of a code point in a name. -/
def pointBytes : CodePoint → List UInt8
  | .scalar c => String.utf8EncodeChar c
  | p => (byte? p).toList

/-- The name that a text spells. -/
def ofText (t : Text) : FileName :=
  t.flatMap pointBytes

/-- Reads the character that a row of bytes begins with; no character has more than four bytes. -/
def readChar? (bytes : List UInt8) : Option (Char × List UInt8) :=
  [1, 2, 3, 4].findSome? fun size =>
    match Utf8.decode (bytes.take size) with
    | .ok [c] => some (c, bytes.drop size)
    | _ => none

/-- The text of a row of bytes. Each step takes at least one byte. -/
def textIn : Nat → List UInt8 → Text
  | 0, _ => []
  | _, [] => []
  | steps + 1, b :: rest =>
    match readChar? (b :: rest) with
    | some (c, after) => .scalar c :: textIn steps after
    | none => ofByte b :: textIn steps rest

/-- The text of a name. -/
def toText (name : FileName) : Text :=
  textIn name.length name

end FileName

namespace Path

/-- The bytes that a path may have at most. -/
def maxSize : Nat := 4095

/-- The bytes of a path. -/
def size (path : Path) : Nat :=
  (FileName.ofText path.toText).length

/-- The first surrogates of a path that stand for no bytes. -/
def unencodable? (path : Path) : Option Utf8.Unencodable :=
  Utf8.firstRefused? FileName.isNamePoint 0 path.toText

/-- The test for a path that the operating system can be asked about: it has bytes, and no null
character. -/
def isAskable (path : Path) : Bool :=
  path.unencodable?.isNone && !path.hasNull

end Path

end TableDdl
