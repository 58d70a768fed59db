import TableDdl.Number.Binary64
import TableDdl.Text.CharClass

/-!
# Numerals

A numeral has digits before and after a point and an exponent. Documents write numbers as numerals,
and a text that stands for a number holds one too, in a looser form: white space around it, digits
of any script, underscores between digits, and the names of infinity and of the undefined number.
-/

namespace TableDdl

/-- The parts of a numeral. An absent exponent is zero. -/
structure Numeral where
  negative : Bool
  whole : Text
  fraction : Text
  exponent : Int
  deriving DecidableEq, Repr

namespace Numeral

/-- The binary64 number nearest to the value of a numeral. -/
def toBinary64 (n : Numeral) : Binary64 :=
  .ofDecimal n.negative (Text.digitsValue (n.whole ++ n.fraction))
    (n.exponent - Int.ofNat n.fraction.length)

/-- Reads the sign in front of a numeral or of an exponent; without one it is positive. -/
def splitSign : Text → Bool × Text
  | .scalar '-' :: rest => (true, rest)
  | .scalar '+' :: rest => (false, rest)
  | rest => (false, rest)

/-- The leading digits and what follows them. -/
def splitDigits (t : Text) : Text × Text :=
  (t.takeWhile CodePoint.isDigit, t.dropWhile CodePoint.isDigit)

/-- Reads an exponent: its letter, an optional sign and at least one digit. -/
def splitExponent? (t : Text) : Option (Int × Text) :=
  match t with
  | .scalar c :: rest =>
    if c = 'e' ∨ c = 'E' then
      let (negative, rest) := splitSign rest
      let (digits, rest) := splitDigits rest
      if digits.isEmpty then none
      else
        let magnitude := Int.ofNat (Text.digitsValue digits)
        some (if negative then -magnitude else magnitude, rest)
    else none
  | _ => none

/-- Reads a numeral without its sign that fills a text. A digit has to stand before or after the
point. -/
def ofUnsigned? (negative : Bool) (t : Text) : Option Numeral :=
  let (whole, rest) := splitDigits t
  let (fraction, rest) :=
    match rest with
    | .scalar '.' :: rest => splitDigits rest
    | rest => ([], rest)
  if whole.isEmpty && fraction.isEmpty then none
  else
    match rest with
    | [] => some ⟨negative, whole, fraction, 0⟩
    | rest =>
      match splitExponent? rest with
      | some (exponent, []) => some ⟨negative, whole, fraction, exponent⟩
      | _ => none

/-- Writes every decimal digit of Unicode as the ASCII digit of its value. -/
def asciiDigits (t : Text) : Text :=
  t.map fun p =>
    match p.decimalDigit? with
    | some d => .scalar (Nat.digitChar d)
    | none => p

/-- Drops the underscores that stand between two digits; there is no result if one stands
elsewhere. -/
def joinDigitGroups? : Text → Option Text
  | [] => some []
  | .scalar '_' :: _ => none
  | p :: .scalar '_' :: q :: rest =>
    if p.isDigit && q.isDigit then (p :: ·) <$> joinDigitGroups? (q :: rest) else none
  | p :: rest => (p :: ·) <$> joinDigitGroups? rest

/-- The names of infinity. -/
def infinityNames : List Text := ["inf", "infinity"]

/-- The name of the undefined number. -/
def nanName : Text := "nan"

end Numeral

/-- The binary64 number that a text stands for. -/
def Binary64.ofText? (t : Text) : Option Binary64 := do
  let trimmed := (Numeral.asciiDigits t).trim CodePoint.isNumeralBlank
  let (negative, body) := Numeral.splitSign (← Numeral.joinDigitGroups? trimmed)
  let name := body.map CodePoint.toLower
  if name ∈ Numeral.infinityNames then some (.infinite negative)
  else if name = Numeral.nanName then some .nan
  else Numeral.toBinary64 <$> Numeral.ofUnsigned? negative body

end TableDdl
