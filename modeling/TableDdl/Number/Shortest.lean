import TableDdl.Number.Binary64
import TableDdl.Text.Basic

/-!
# The shortest decimal that reads back

A binary64 number is written with the fewest decimal digits that are read as the same number, and
among those with the digits nearest to it. Numbers from 0.0001 up to sixteen places before the point
are written positionally, all others with an exponent.
-/

namespace TableDdl

/-- The number `digits * 10 ^ exponent`. -/
structure Decimal where
  digits : Nat
  exponent : Int
  deriving DecidableEq, Repr

/-- The numbers that are read as one binary64 number, as numerators over one denominator: the two
ends, the number itself, and whether the ends belong to it. -/
structure Binary64.Neighbourhood where
  low : Nat
  centre : Nat
  high : Nat
  den : Nat
  closed : Bool

namespace Binary64

/-- The neighbourhood of `significand * 2 ^ exponent`: half a unit on both sides, and a quarter
below the least significand of its exponent, where the numbers lie twice as close. -/
def neighbourhood (significand : Nat) (exponent : Int) : Neighbourhood :=
  let unit := Nat.pow 2 (exponent - 2).toNat
  let below := if 2 * significand = significandBound ∧ minExponent < exponent then 1 else 2
  { low := (4 * significand - below) * unit
    centre := 4 * significand * unit
    high := (4 * significand + 2) * unit
    den := Nat.pow 2 (2 - exponent).toNat
    closed := significand % 2 = 0 }

/-- The place of the decimal point in a positive quotient: it is below `10 ^ place` and not below
`10 ^ (place - 1)`. -/
def decimalPlace (num den : Nat) : Int :=
  if den ≤ num then (Nat.toDigits 10 (num / den)).length
  else
    let zeros := (Nat.toDigits 10 (den / num)).length
    if num * Nat.pow 10 (zeros - 1) = den then 2 - Int.ofNat zeros else 1 - Int.ofNat zeros

namespace Neighbourhood

/-- The neighbourhood in units of `10 ^ exponent`. -/
def inTens (n : Neighbourhood) (exponent : Int) : Neighbourhood :=
  let up := Nat.pow 10 (-exponent).toNat
  { low := n.low * up
    centre := n.centre * up
    high := n.high * up
    den := n.den * Nat.pow 10 exponent.toNat
    closed := n.closed }

/-- The test for a natural number in the neighbourhood. -/
def contains (n : Neighbourhood) (m : Nat) : Bool :=
  let scaled := m * n.den
  if n.closed then n.low ≤ scaled && scaled ≤ n.high else n.low < scaled && scaled < n.high

/-- The natural number of the neighbourhood nearest to its centre, if one of the two next to the
centre is in it; of two that are equally near, the even one. -/
def nearest? (n : Neighbourhood) : Option Nat :=
  let down := n.centre / n.den
  let rounded := roundQuotient n.centre n.den
  let other := if rounded = down then down + 1 else down
  if n.contains rounded then some rounded
  else if n.contains other then some other
  else none

/-- The decimal of at most `count` digits in the neighbourhood that is nearest to its centre. -/
def withDigits? (n : Neighbourhood) (count : Nat) : Option Decimal :=
  let exponent := decimalPlace n.centre n.den - Int.ofNat count
  (n.inTens exponent).nearest?.map (⟨·, exponent⟩)

/-- The first decimal found with at least `count` and fewer than `count + more` digits. -/
def firstFrom? (n : Neighbourhood) (count : Nat) : Nat → Option Decimal
  | 0 => none
  | more + 1 => n.withDigits? count <|> n.firstFrom? (count + 1) more

end Neighbourhood

/-- The shortest decimal that reads back as `significand * 2 ^ exponent`. Seventeen digits always
suffice. -/
def shortest (significand : Nat) (exponent : Int) : Decimal :=
  if significand = 0 then ⟨0, 0⟩
  else ((neighbourhood significand exponent).firstFrom? 1 17).getD ⟨significand, exponent⟩

end Binary64

namespace Decimal

/-- The digits without the zeros at their end, and the place of the decimal point counted from the
first of them. -/
def significant (d : Decimal) : List Char × Int :=
  let digits := Nat.toDigits 10 d.digits
  let kept := (digits.reverse.dropWhile (· = '0')).reverse
  (if kept.isEmpty then ['0'] else kept, Int.ofNat digits.length + d.exponent)

/-- The digits with a point at a place, which may lie before or after all of them; at least one
digit stands on each side. -/
def positional (digits : List Char) (place : Int) : List Char :=
  if place ≤ 0 then
    '0' :: '.' :: List.replicate (-place).toNat '0' ++ digits
  else if Int.ofNat digits.length ≤ place then
    digits ++ List.replicate (place - Int.ofNat digits.length).toNat '0' ++ ['.', '0']
  else
    digits.take place.toNat ++ '.' :: digits.drop place.toNat

/-- One digit before the point, the others after it, and the exponent with its sign and at least two
digits. -/
def scientific (digits : List Char) (place : Int) : List Char :=
  let exponent := place - 1
  let size := Nat.toDigits 10 exponent.natAbs
  let mantissa :=
    match digits with
    | first :: second :: more => first :: '.' :: second :: more
    | _ => digits
  mantissa ++ 'e' :: (if exponent < 0 then '-' else '+') ::
    (List.replicate (2 - size.length) '0' ++ size)

/-- The written form of a decimal: positional if its exponent lies between -4 and 15. -/
def toChars (d : Decimal) : List Char :=
  let (digits, place) := d.significant
  if -4 < place ∧ place ≤ 16 then positional digits place else scientific digits place

end Decimal

/-- How messages and documents write the numbers that have no digits. -/
structure Binary64.Names where
  nan : String
  infinity : String

/-- The sign in front of a number. -/
def Binary64.sign (negative : Bool) : Text :=
  if negative then ['-'] else []

/-- The written form of a binary64 number. -/
def Binary64.toText (names : Binary64.Names) : Binary64 → Text
  | .nan => names.nan
  | .infinite negative => sign negative ++ names.infinity
  | .finite negative significand exponent =>
    sign negative ++ (Binary64.shortest significand exponent).toChars.map CodePoint.scalar

end TableDdl
