import Mathlib.Tactic.Ring
import TableDdl.Number.Numeral
import TableDdl.Proofs.Text.Digits

/-!
# The range of binary64 numbers

Every binary64 number that is read off a text has a significand of at most 53 binary digits and an
exponent up to the greatest one. So an integer that is equal to one is bounded, and is written with
few digits.
-/

namespace TableDdl.Binary64

/-- The bounds of the format on a number. -/
def InRange : Binary64 → Prop
  | .finite _ significand exponent => significand < significandBound ∧ exponent ≤ maxExponent
  | _ => True

/-! ## Rounding stays in range -/

theorem roundQuotient_le (num den : Nat) : roundQuotient num den ≤ num / den + 1 := by
  unfold roundQuotient
  dsimp only
  split
  · omega
  · split
    · exact Nat.le_refl _
    · omega

/-- In units of a large enough power of two, a quotient has few binary digits before the point. -/
theorem inUnits_quotient_lt (width : Nat) {num den : Nat} {exponent : Int} (nonzero : den ≠ 0)
    (large : (num.log2 : Int) + 1 ≤ width + den.log2 + exponent) :
    (inUnits num den exponent).1 / (inUnits num den exponent).2 < 2 ^ width := by
  have den_pos : 0 < den * 2 ^ exponent.toNat :=
    Nat.mul_pos (Nat.pos_of_ne_zero nonzero) (Nat.pow_pos (by decide))
  show num * 2 ^ (-exponent).toNat / (den * 2 ^ exponent.toNat) < 2 ^ width
  rw [Nat.div_lt_iff_lt_mul den_pos]
  have powers : num.log2 + 1 + (-exponent).toNat ≤ width + (den.log2 + exponent.toNat) := by omega
  calc num * 2 ^ (-exponent).toNat
      < 2 ^ (num.log2 + 1) * 2 ^ (-exponent).toNat :=
        Nat.mul_lt_mul_of_pos_right Nat.lt_log2_self (Nat.pow_pos (by decide))
    _ = 2 ^ (num.log2 + 1 + (-exponent).toNat) := (pow_add ..).symm
    _ ≤ 2 ^ (width + (den.log2 + exponent.toNat)) := Nat.pow_le_pow_right (by decide) powers
    _ = 2 ^ width * (2 ^ den.log2 * 2 ^ exponent.toNat) := by rw [pow_add, pow_add]
    _ ≤ 2 ^ width * (den * 2 ^ exponent.toNat) :=
        Nat.mul_le_mul_left _ (Nat.mul_le_mul_right _ (Nat.log2_self_le nonzero))

theorem unitExponent_quotient_lt (num : Nat) {den : Nat} (nonzero : den ≠ 0) :
    (inUnits num den (unitExponent num den)).1 / (inUnits num den (unitExponent num den)).2 <
      significandBound := by
  unfold unitExponent
  simp only [Int.ofNat_eq_natCast]
  split
  · assumption
  · exact inUnits_quotient_lt 53 nonzero (by omega)

theorem ofRatio_inRange {negative : Bool} {num den : Nat} (nonzero : den ≠ 0) :
    (ofRatio negative num den).InRange := by
  have quotient := unitExponent_quotient_lt num nonzero
  unfold ofRatio
  split
  · exact ⟨by decide, by decide⟩
  · dsimp only
    have rounded := roundQuotient_le (inUnits num den (unitExponent num den)).1
      (inUnits num den (unitExponent num den)).2
    generalize roundQuotient _ _ = r at rounded ⊢
    by_cases small : r < significandBound
    · simp only [small, if_true]
      split
      · trivial
      · rename_i bounded
        exact ⟨small, Int.not_lt.mp bounded⟩
    · simp only [small, if_false]
      split
      · trivial
      · rename_i bounded
        have positive : 1 < significandBound := by decide
        have half : r / 2 < significandBound := by omega
        exact ⟨half, Int.not_lt.mp bounded⟩

theorem ofDecimal_inRange (negative : Bool) (digits : Nat) (exponent : Int) :
    (ofDecimal negative digits exponent).InRange := by
  unfold ofDecimal
  dsimp only
  split
  · exact ⟨by decide, by decide⟩
  · split
    · trivial
    · exact ofRatio_inRange (Nat.pos_iff_ne_zero.mp (Nat.pow_pos (by decide)))

/-- A number that a text stands for is in range. -/
theorem ofText?_inRange {t : Text} {x : Binary64} (found : ofText? t = some x) : x.InRange := by
  simp only [ofText?, bind, Option.bind_eq_some_iff] at found
  obtain ⟨body, -, found⟩ := found
  split at found
  · cases found
    trivial
  · split at found
    · cases found
      trivial
    · obtain ⟨numeral, -, rfl⟩ := Option.map_eq_some_iff.mp found
      exact ofDecimal_inRange _ _ _

/-! ## Integers in range -/

theorem natAbs_toInt?_lt {x : Binary64} {n : Int} (inRange : x.InRange)
    (found : x.toInt? = some n) :
    n.natAbs < significandBound * 2 ^ maxExponent.toNat := by
  cases x with
  | nan => cases found
  | infinite => cases found
  | finite negative significand exponent =>
    obtain ⟨small, bounded⟩ := inRange
    simp only [toInt?] at found
    split at found
    · have magnitude : n.natAbs =
          significand / Nat.pow 2 (-exponent).toNat * Nat.pow 2 exponent.toNat := by
        cases negative with
        | false =>
          cases found
          exact Int.natAbs_natCast _
        | true =>
          cases found
          rw [if_pos rfl, Int.natAbs_neg]
          exact Int.natAbs_natCast _
      have power : exponent.toNat ≤ maxExponent.toNat := Int.toNat_le_toNat bounded
      calc n.natAbs = significand / 2 ^ (-exponent).toNat * 2 ^ exponent.toNat := magnitude
        _ ≤ significand * 2 ^ maxExponent.toNat :=
            Nat.mul_le_mul (Nat.div_le_self ..) (Nat.pow_le_pow_right (by decide) power)
        _ < significandBound * 2 ^ maxExponent.toNat :=
            Nat.mul_lt_mul_of_pos_right small (Nat.pow_pos (by decide))
    · cases found

/-- An integer in range has no more decimal digits than the greatest number has binary ones. -/
theorem natAbs_lt_pow_ten {x : Binary64} {n : Int} (inRange : x.InRange) (found : x.toInt? = some n)
    {width : Nat} (wide : 53 + maxExponent.toNat ≤ width) : n.natAbs < Nat.pow 10 width := by
  have bound : significandBound = 2 ^ 53 := rfl
  calc n.natAbs < significandBound * 2 ^ maxExponent.toNat := natAbs_toInt?_lt inRange found
    _ = 2 ^ (53 + maxExponent.toNat) := by rw [bound, ← pow_add]
    _ ≤ 10 ^ (53 + maxExponent.toNat) := Nat.pow_le_pow_left (by decide) _
    _ ≤ 10 ^ width := Nat.pow_le_pow_right (by decide) wide

end TableDdl.Binary64
