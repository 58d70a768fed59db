/-!
# Binary64 numbers

Numbers with a fraction or an exponent are kept in the binary64 format. A finite one is an exact
significand times a power of two, so that rounding to the nearest such number, the test for an
integer and the conversion to one are done in exact arithmetic.
-/

namespace TableDdl

/-- A binary64 number. The finite ones stand for `significand * 2 ^ exponent`, with a sign that zero
has too. -/
inductive Binary64 where
  | nan
  | infinite (negative : Bool)
  | finite (negative : Bool) (significand : Nat) (exponent : Int)
  deriving DecidableEq, Inhabited, Repr

namespace Binary64

/-- The least exponent of a finite number. -/
def minExponent : Int := -1074

/-- The greatest exponent of a finite number. -/
def maxExponent : Int := 971

/-- Significands lie below this bound. -/
def significandBound : Nat := Nat.pow 2 53

/-- The quotient to the nearest natural number; a half goes to the even neighbour. -/
def roundQuotient (num den : Nat) : Nat :=
  let quotient := num / den
  let rest := num % den
  if 2 * rest < den then quotient
  else if den < 2 * rest then quotient + 1
  else quotient + quotient % 2

/-- The quotient `num / den` in units of `2 ^ exponent`, as a numerator and a denominator. -/
def inUnits (num den : Nat) (exponent : Int) : Nat × Nat :=
  (num * Nat.pow 2 (-exponent).toNat, den * Nat.pow 2 exponent.toNat)

/-- The exponent in whose units a quotient has 53 binary digits before the point, or the least
exponent for a quotient too small for that. -/
def unitExponent (num den : Nat) : Int :=
  let guess := max (Int.ofNat num.log2 - Int.ofNat den.log2 - 53) minExponent
  let (n, d) := inUnits num den guess
  if n / d < significandBound then guess else guess + 1

/-- The binary64 number nearest to a quotient; a half goes to the even significand, and what is too
large becomes infinite. -/
def ofRatio (negative : Bool) (num den : Nat) : Binary64 :=
  if num = 0 then .finite negative 0 minExponent
  else
    let exponent := unitExponent num den
    let (n, d) := inUnits num den exponent
    let rounded := roundQuotient n d
    let (significand, exponent) :=
      if rounded < significandBound then (rounded, exponent) else (rounded / 2, exponent + 1)
    if maxExponent < exponent then .infinite negative
    else .finite negative significand exponent

/-- The binary64 number nearest to `digits * 10 ^ exponent`. Numbers of more than 310 places before
the point are infinite and those with more than 330 zeros after it are zero, so that the powers of
ten stay small. -/
def ofDecimal (negative : Bool) (digits : Nat) (exponent : Int) : Binary64 :=
  let places := Int.ofNat (Nat.toDigits 10 digits).length + exponent
  if digits = 0 ∨ places < -330 then .finite negative 0 minExponent
  else if 310 < places then .infinite negative
  else ofRatio negative (digits * Nat.pow 10 exponent.toNat) (Nat.pow 10 (-exponent).toNat)

/-- The integer that a number is equal to, if there is one. -/
def toInt? : Binary64 → Option Int
  | .finite negative significand exponent =>
    let unit := Nat.pow 2 (-exponent).toNat
    if significand % unit = 0 then
      let magnitude := significand / unit * Nat.pow 2 exponent.toNat
      some (if negative then -Int.ofNat magnitude else Int.ofNat magnitude)
    else none
  | _ => none

end Binary64

end TableDdl
