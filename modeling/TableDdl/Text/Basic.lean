/-!
# Text as a sequence of code points

Documents may hold a lone surrogate, which is no character but has to survive from the document to
the output. A `Text` is therefore a list of code points, each a character or a surrogate, and a
string literal is read as the text of its characters.
-/

namespace TableDdl

/-- A Unicode code point: a character, or one of the 2048 surrogates, counted from the first. -/
inductive CodePoint where
  | scalar (c : Char)
  | surrogate (offset : Fin 2048)
  deriving DecidableEq, Inhabited, Repr

namespace CodePoint

instance : Coe Char CodePoint := ⟨.scalar⟩

/-- The first surrogate. -/
def surrogateBase : Nat := 0xD800

/-- The number of a code point. -/
def value : CodePoint → Nat
  | .scalar c => c.toNat
  | .surrogate offset => surrogateBase + offset

/-- The code point with a given number; there is none from 0x110000 on. -/
def ofValue? (n : Nat) : Option CodePoint :=
  if h : n.isValidChar then some (.scalar (Char.ofNatAux n h))
  else if h : n - surrogateBase < 2048 then some (.surrogate ⟨n - surrogateBase, h⟩)
  else none

/-- The character of a code point that is one. -/
def char? : CodePoint → Option Char
  | .scalar c => some c
  | .surrogate _ => none

/-- The value of an ASCII digit. -/
def digit? : CodePoint → Option Nat
  | .scalar c => if c.isDigit then some (c.toNat - '0'.toNat) else none
  | .surrogate _ => none

/-- The test for an ASCII digit. -/
def isDigit : CodePoint → Bool
  | .scalar c => c.isDigit
  | .surrogate _ => false

/-- The ASCII small letter of an ASCII capital; any other code point stays as it is. -/
def toLower : CodePoint → CodePoint
  | .scalar c => .scalar c.toLower
  | p => p

/-- The ASCII capital of an ASCII small letter; any other code point stays as it is. -/
def toUpper : CodePoint → CodePoint
  | .scalar c => .scalar c.toUpper
  | p => p

end CodePoint

/-- A sequence of code points. -/
abbrev Text := List CodePoint

namespace Text

/-- The text of a string's characters. -/
def ofString (s : String) : Text :=
  s.toList.map .scalar

instance : Coe String Text := ⟨ofString⟩

/-- The characters of a text that holds no surrogate. -/
def chars? (t : Text) : Option (List Char) :=
  t.mapM CodePoint.char?

/-- The parts one after the other, with a separator between neighbours. -/
def join (separator : Text) (parts : List Text) : Text :=
  separator.intercalate parts

/-- The pieces of a text between separators; without a separator there is one piece. -/
def split (separator : CodePoint) : Text → List Text
  | [] => [[]]
  | p :: rest =>
    if p = separator then [] :: split separator rest
    else
      match split separator rest with
      | [] => [[p]]
      | piece :: more => (p :: piece) :: more

/-- The decimal digits of a natural number, without leading zeros. -/
def ofNat (n : Nat) : Text :=
  (Nat.toDigits 10 n).map .scalar

/-- The decimal digits of an integer, after a `-` if it is negative. -/
def ofInt : Int → Text
  | .ofNat n => ofNat n
  | .negSucc n => .scalar '-' :: ofNat (n + 1)

/-- The number that a row of decimal digits stands for; what is no digit counts as zero. -/
def digitsValue (digits : Text) : Nat :=
  digits.foldl (fun value p => 10 * value + (p.digit?).getD 0) 0

/-- The lower-case hexadecimal digits of a number, filled with zeros up to a width. -/
def hex (width n : Nat) : Text :=
  let digits := (Nat.toDigits 16 n).map CodePoint.scalar
  List.replicate (width - digits.length) (.scalar '0') ++ digits

/-- The value of a hexadecimal digit in either case. -/
def hexDigit? (p : CodePoint) : Option Nat :=
  match p with
  | .scalar c =>
    if '0' ≤ c ∧ c ≤ '9' then some (c.toNat - '0'.toNat)
    else if 'a' ≤ c ∧ c ≤ 'f' then some (c.toNat - 'a'.toNat + 10)
    else if 'A' ≤ c ∧ c ≤ 'F' then some (c.toNat - 'A'.toNat + 10)
    else none
  | .surrogate _ => none

/-- The text in lower case, as far as ASCII is concerned: the letters A to Z and the Kelvin sign,
the one other character whose small letter is in ASCII alone. -/
def toLower (t : Text) : Text :=
  t.map fun p => if p = .scalar '\u212a' then .scalar 'k' else p.toLower

/-- The text without the code points of a class at its two ends. -/
def trim (isBlank : CodePoint → Bool) (t : Text) : Text :=
  ((t.dropWhile isBlank).reverse.dropWhile isBlank).reverse

end Text

end TableDdl
