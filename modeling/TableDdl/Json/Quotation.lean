import TableDdl.Json.Complaint

/-!
# Quotations

A text in a JSON text stands between quotation marks and may hold escapes. It is read in two steps:
the first finds the pieces up to the closing mark, the second joins the two halves of a character
that is given by two 16-bit units.
-/

namespace TableDdl.Json

/-- A piece of a text between quotation marks: a code point, or a 16-bit unit given by its number.
-/
inductive Piece where
  | plain (p : CodePoint)
  | unit (n : Nat)
  deriving DecidableEq, Repr

/-- The code point of a unit that stands alone. -/
def pointOfUnit (n : Nat) : CodePoint :=
  (CodePoint.ofValue? n).getD default

/-- Joins the pieces of a text. A high surrogate unit and a low one next to it are one character. -/
def joinPieces : List Piece → Text
  | [] => []
  | .plain p :: rest => p :: joinPieces rest
  | .unit high :: .unit low :: rest =>
    if 0xD800 ≤ high ∧ high < 0xDC00 ∧ 0xDC00 ≤ low ∧ low < 0xE000 then
      pointOfUnit (0x10000 + (high - 0xD800) * 0x400 + (low - 0xDC00)) :: joinPieces rest
    else pointOfUnit high :: joinPieces (.unit low :: rest)
  | .unit n :: rest => pointOfUnit n :: joinPieces rest

/-- The character that a backslash and one more character stand for. -/
def shortEscape? : CodePoint → Option Char
  | .scalar '"' => some '"'
  | .scalar '\\' => some '\\'
  | .scalar '/' => some '/'
  | .scalar 'b' => some '\x08'
  | .scalar 'f' => some '\x0c'
  | .scalar 'n' => some '\n'
  | .scalar 'r' => some '\r'
  | .scalar 't' => some '\t'
  | _ => none

/-- The number that four hexadecimal digits stand for. -/
def unitOfHex? (a b c d : CodePoint) : Option Nat := do
  let a ← Text.hexDigit? a
  let b ← Text.hexDigit? b
  let c ← Text.hexDigit? c
  let d ← Text.hexDigit? d
  pure (((a * 16 + b) * 16 + c) * 16 + d)

/-- Reads the pieces of a text up to its closing quotation mark. `opening` starts with the opening
one. An escape by number is complete only if something follows it, as the closing mark does. -/
def scanPieces (opening : Text) : Text → Except Flaw (List Piece × Text)
  | [] => .error ⟨.unterminated, opening⟩
  | .scalar '"' :: rest => .ok ([], rest)
  | .scalar '\\' :: rest =>
    match rest with
    | [] => .error ⟨.unterminated, opening⟩
    | .scalar 'u' :: a :: b :: c :: d :: e :: more =>
      match unitOfHex? a b c d with
      | some n => (fun (ps, after) => (.unit n :: ps, after)) <$> scanPieces opening (e :: more)
      | none => .error ⟨.unicodeEscape, rest⟩
    | .scalar 'u' :: _ => .error ⟨.unicodeEscape, rest⟩
    | e :: more =>
      match shortEscape? e with
      | some c => (fun (ps, after) => (.plain c :: ps, after)) <$> scanPieces opening more
      | none => .error ⟨.escape, .scalar '\\' :: rest⟩
  | p :: rest =>
    if p.value < 0x20 then .error ⟨.control, p :: rest⟩
    else (fun (ps, after) => (.plain p :: ps, after)) <$> scanPieces opening rest

theorem length_of_scanPieces {opening t after : Text} {pieces : List Piece}
    (h : scanPieces opening t = .ok (pieces, after)) : after.length ≤ t.length := by
  fun_induction scanPieces opening t generalizing pieces with
  | case1 => cases h
  | case2 rest => cases h; simp
  | case3 => cases h
  | case4 a b c d e more n hex ih =>
    rcases inner : scanPieces opening (e :: more) with flaw | ⟨ps, rest⟩
    · rw [inner] at h; cases h
    · rw [inner] at h
      cases h
      have := ih inner
      simp at this ⊢
      omega
  | case5 => cases h
  | case6 => cases h
  | case7 e more _ _ c short ih =>
    rcases inner : scanPieces opening more with flaw | ⟨ps, rest⟩
    · rw [inner] at h; cases h
    · rw [inner] at h
      cases h
      have := ih inner
      simp
      omega
  | case8 => cases h
  | case9 => cases h
  | case10 p rest _ _ _ ih =>
    rcases inner : scanPieces opening rest with flaw | ⟨ps, after⟩
    · rw [inner] at h; cases h
    · rw [inner] at h
      cases h
      have := ih inner
      simp
      omega

end TableDdl.Json
