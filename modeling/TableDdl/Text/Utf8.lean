import TableDdl.Text.Basic

/-!
# UTF-8

`encode` writes characters as bytes and `decode` reads bytes back. Reading is strict: overlong
forms, encoded surrogates, numbers above U+10FFFF and broken sequences are refused, and the refusal
says which bytes are at fault.
-/

namespace TableDdl.Utf8

/-- What is wrong with a byte sequence. -/
inductive Flaw where
  | start
  | continuation
  | truncated
  deriving DecidableEq, Repr

/-- The first bytes that are no UTF-8: where they start, how many they are, the first of them, and
what is wrong with them. -/
structure Malformed where
  position : Nat
  length : Nat
  byte : UInt8
  flaw : Flaw
  deriving DecidableEq, Repr

/-- A leading byte announces how many continuation bytes follow, the bounds of the first of them,
and the high bits of the number. -/
structure Lead where
  more : Nat
  low : UInt8
  high : UInt8
  bits : Nat

/-- The table of leading bytes from 0x80 on. The bounds of the second byte exclude overlong forms,
surrogates and numbers above U+10FFFF. -/
def Lead.of? (b : UInt8) : Option Lead :=
  if b < 0xC2 then none
  else if b < 0xE0 then some ⟨0, 0x80, 0xBF, b.toNat - 0xC0⟩
  else if b = 0xE0 then some ⟨1, 0xA0, 0xBF, b.toNat - 0xE0⟩
  else if b = 0xED then some ⟨1, 0x80, 0x9F, b.toNat - 0xE0⟩
  else if b < 0xF0 then some ⟨1, 0x80, 0xBF, b.toNat - 0xE0⟩
  else if b = 0xF0 then some ⟨2, 0x90, 0xBF, b.toNat - 0xF0⟩
  else if b < 0xF4 then some ⟨2, 0x80, 0xBF, b.toNat - 0xF0⟩
  else if b = 0xF4 then some ⟨2, 0x80, 0x8F, b.toNat - 0xF0⟩
  else none

/-- The test for a continuation byte. -/
def isContinuation (b : UInt8) : Bool :=
  0x80 ≤ b ∧ b ≤ 0xBF

/-- The six bits that a continuation byte adds to a number. -/
def extend (bits : Nat) (b : UInt8) : Nat :=
  64 * bits + (b.toNat - 0x80)

/-- Reads bytes that start at a given position. -/
def decodeFrom (position : Nat) : List UInt8 → Except Malformed (List Char)
  | [] => .ok []
  | a :: rest =>
    if a < 0x80 then
      (Char.ofNat a.toNat :: ·) <$> decodeFrom (position + 1) rest
    else
      match Lead.of? a with
      | none => .error ⟨position, 1, a, .start⟩
      | some lead =>
        match rest with
        | [] => .error ⟨position, 1, a, .truncated⟩
        | b :: rest =>
          if ¬ (lead.low ≤ b ∧ b ≤ lead.high) then .error ⟨position, 1, a, .continuation⟩
          else if lead.more = 0 then
            (Char.ofNat (extend lead.bits b) :: ·) <$> decodeFrom (position + 2) rest
          else
            match rest with
            | [] => .error ⟨position, 2, a, .truncated⟩
            | c :: rest =>
              if ¬ isContinuation c then .error ⟨position, 2, a, .continuation⟩
              else if lead.more = 1 then
                (Char.ofNat (extend (extend lead.bits b) c) :: ·) <$>
                  decodeFrom (position + 3) rest
              else
                match rest with
                | [] => .error ⟨position, 3, a, .truncated⟩
                | d :: rest =>
                  if ¬ isContinuation d then .error ⟨position, 3, a, .continuation⟩
                  else
                    (Char.ofNat (extend (extend (extend lead.bits b) c) d) :: ·) <$>
                      decodeFrom (position + 4) rest

/-- The characters that bytes encode, or the first bytes that encode none. -/
def decode (bytes : List UInt8) : Except Malformed (List Char) :=
  decodeFrom 0 bytes

/-- The bytes of a row of characters. -/
def encode (cs : List Char) : List UInt8 :=
  cs.flatMap String.utf8EncodeChar

/-- The number of bytes of a code point; a surrogate counts like its neighbours. -/
def size : CodePoint → Nat
  | .scalar c => c.utf8Size
  | .surrogate _ => 3

/-- The number of bytes of a text. -/
def textSize : Text → Nat
  | [] => 0
  | p :: rest => size p + textSize rest

/-- The wording of a flaw. -/
def Flaw.message : Flaw → Text
  | .start => "invalid start byte"
  | .continuation => "invalid continuation byte"
  | .truncated => "unexpected end of data"

/-- The wording of a refusal. -/
def Malformed.message (m : Malformed) : Text :=
  "'utf-8' codec can't decode " ++
    (if m.length = 1 then
      "byte 0x" ++ Text.hex 2 m.byte.toNat ++ " in position " ++ Text.ofNat m.position
    else
      "bytes in position " ++ Text.ofNat m.position ++ "-" ++
        Text.ofNat (m.position + m.length - 1)) ++
    ": " ++ m.flaw.message

/-- A run of surrogates that a text cannot be written with: where it starts, how long it is, and
its first code point. -/
structure Unencodable where
  position : Nat
  length : Nat
  first : CodePoint
  deriving DecidableEq, Repr

/-- The first code point of a text that is not accepted, with the surrogates right after it. The
text starts at a given position. -/
def firstRefused? (isAccepted : CodePoint → Bool) (position : Nat) : Text → Option Unencodable
  | [] => none
  | p :: rest =>
    if isAccepted p then firstRefused? isAccepted (position + 1) rest
    else some ⟨position, 1 + (rest.takeWhile (·.char?.isNone)).length, p⟩

/-- The bytes of a text, or its first run of surrogates. -/
def encodeText (t : Text) : Except Unencodable (List UInt8) :=
  match firstRefused? (·.char?.isSome) 0 t with
  | some u => .error u
  | none => .ok (encode (t.filterMap CodePoint.char?))

/-- A text with every surrogate written by its number. -/
def spellSurrogates (t : Text) : Text :=
  t.flatMap fun p =>
    match p with
    | .scalar c => [.scalar c]
    | .surrogate _ => "\\u" ++ Text.hex 4 p.value

/-- The wording of a refusal to write. -/
def Unencodable.message (u : Unencodable) : Text :=
  "'utf-8' codec can't encode " ++
    (if u.length = 1 then
      "character '\\u" ++ Text.hex 4 u.first.value ++ "' in position " ++ Text.ofNat u.position
    else
      "characters in position " ++ Text.ofNat u.position ++ "-" ++
        Text.ofNat (u.position + u.length - 1)) ++
    ": surrogates not allowed"

end TableDdl.Utf8
