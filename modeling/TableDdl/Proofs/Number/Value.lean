import Mathlib.Algebra.Field.Rat
import Mathlib.Tactic.LinearCombination
import Mathlib.Tactic.Ring
import TableDdl.Number.Binary64

/-!
# The value of a binary64 number

A finite binary64 number is a rational number. `toInt?_eq_some_iff` says that the conversion to an
integer succeeds exactly when that rational number is an integer, and that it gives this integer.
-/

namespace TableDdl.Binary64

/-- The rational number that a finite number is equal to. -/
def value? : Binary64 → Option ℚ
  | .finite negative significand exponent =>
    some ((if negative then -1 else 1) * significand * 2 ^ exponent)
  | _ => none

/-- A power with an integer exponent is a quotient of powers one of which is one. -/
theorem zpow_eq_div (base : ℚ) (exponent : Int) :
    base ^ exponent = base ^ exponent.toNat / base ^ (-exponent).toNat := by
  rcases le_total 0 exponent with nonneg | nonpos
  · obtain ⟨k, rfl⟩ := Int.eq_ofNat_of_zero_le nonneg
    simp
  · obtain ⟨k, eq⟩ := Int.eq_ofNat_of_zero_le (show 0 ≤ -exponent by omega)
    obtain rfl : exponent = -(k : Int) := by omega
    simp

/-- A signed multiple of a power of two is an integer if this holds without denominators. -/
theorem signed_mul_zpow_eq_iff (sign : Int) (significand : Nat) (exponent n : Int) :
    (sign : ℚ) * significand * 2 ^ exponent = n ↔
      sign * (significand * 2 ^ exponent.toNat) = n * 2 ^ (-exponent).toNat := by
  rw [zpow_eq_div 2, ← mul_div_assoc, div_eq_iff (pow_ne_zero _ two_ne_zero), mul_assoc]
  exact_mod_cast Iff.rfl

/-- Dropping a factor that divides and putting it back is exact. -/
theorem ediv_mul_pow_eq_iff (sign : Int) (unit : sign = 1 ∨ sign = -1) (significand a b : Nat)
    (split : a = 0 ∨ b = 0) (n : Int) :
    (significand % 2 ^ b = 0 ∧ sign * ((significand / 2 ^ b * 2 ^ a : Nat) : Int) = n) ↔
      sign * (significand * 2 ^ a) = n * 2 ^ b := by
  constructor
  · rintro ⟨divides, rfl⟩
    obtain ⟨q, rfl⟩ := Nat.dvd_of_mod_eq_zero divides
    rw [Nat.mul_div_cancel_left q (Nat.pow_pos two_pos)]
    push_cast
    ring
  · intro eq
    rcases split with rfl | rfl
    · have divides : ((2 ^ b : Nat) : Int) ∣ significand := by
        refine ⟨sign * n, ?_⟩
        rcases unit with rfl | rfl <;> push_cast
        · linear_combination eq
        · linear_combination -eq
      obtain ⟨q, rfl⟩ := Int.natCast_dvd_natCast.1 divides
      refine ⟨Nat.mul_mod_right .., ?_⟩
      rw [Nat.mul_div_cancel_left q (Nat.pow_pos two_pos)]
      have positive : (2 ^ b : Int) ≠ 0 := pow_ne_zero b two_ne_zero
      refine mul_right_cancel₀ positive ?_
      rw [← eq]
      push_cast
      ring
    · refine ⟨by simp [Nat.mod_one], ?_⟩
      simpa using eq

/-- A number is converted to the integer that it is equal to, and to none if it is no integer. -/
theorem toInt?_eq_some_iff {x : Binary64} {n : Int} :
    x.toInt? = some n ↔ x.value? = some (n : ℚ) := by
  cases x with
  | nan => simp [toInt?, value?]
  | infinite negative => simp [toInt?, value?]
  | finite negative significand exponent =>
    have split : exponent.toNat = 0 ∨ (-exponent).toNat = 0 := by omega
    have exact' := fun sign unit =>
      (ediv_mul_pow_eq_iff sign unit significand exponent.toNat (-exponent).toNat split n).trans
        (signed_mul_zpow_eq_iff sign significand exponent n).symm
    cases negative with
    | false => simpa [toInt?, value?] using exact' 1 (Or.inl rfl)
    | true => simpa [toInt?, value?] using exact' (-1) (Or.inr rfl)

theorem toInt?_eq_none_iff {x : Binary64} :
    x.toInt? = none ↔ ∀ n : Int, x.value? ≠ some (n : ℚ) := by
  constructor
  · intro noInteger n equal
    rw [toInt?_eq_some_iff.2 equal] at noInteger
    cases noInteger
  · intro noInteger
    cases found : x.toInt? with
    | none => rfl
    | some n => exact absurd (toInt?_eq_some_iff.1 found) (noInteger n)

end TableDdl.Binary64
