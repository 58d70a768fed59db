import Mathlib.Algebra.Order.Field.Rat
import Mathlib.Tactic.FieldSimp
import Mathlib.Tactic.Linarith
import Mathlib.Tactic.Positivity
import TableDdl.Proofs.Number.Range
import TableDdl.Proofs.Number.Value

/-!
# The nearest binary64 number

What a numeral is rounded to is the number of the format that is nearest to its value; of two that
are equally near it is the one with the even significand. Infinity takes part in this as if it stood
for the first power of two above the finite numbers. So an integer of at most 53 binary digits is
rounded to itself, however it is written (`value?_of_isNearest`).

In units of the last place of the result, the numbers of the format are integers, save those that
are too small to be near. So it is enough to round to the nearest integer.
-/

namespace TableDdl.Binary64

/-- The test for a number of the format. -/
def InFormat : Binary64 → Prop
  | .finite _ significand exponent =>
    significand < significandBound ∧ minExponent ≤ exponent ∧ exponent ≤ maxExponent
  | _ => True

/-- The test for a number with as many digits in its significand as its exponent allows. -/
def IsCanonical : Binary64 → Prop
  | .finite _ significand exponent => exponent = minExponent ∨ significandBound ≤ 2 * significand
  | _ => True

/-- The test for a number that a tie goes to. -/
def IsEven : Binary64 → Prop
  | .finite _ significand _ => significand % 2 = 0
  | _ => True

/-- The value that a number is compared by: an infinite one stands for the first power of two above
the finite ones. -/
def limit? : Binary64 → Option ℚ
  | .infinite negative => some ((if negative then -1 else 1) * 2 ^ 1024)
  | x => x.value?

theorem limit?_finite (negative : Bool) (significand : Nat) (exponent : Int) :
    (finite negative significand exponent).limit? =
      some ((if negative then (-1 : ℚ) else 1) * significand * 2 ^ exponent) := rfl

/-- `IsNearest q x`: of all numbers of the format `x` is the nearest one to `q`, and the even one of
two that are. -/
structure IsNearest (q : ℚ) (x : Binary64) : Prop where
  inFormat : x.InFormat
  isCanonical : x.IsCanonical
  best : ∃ r, x.limit? = some r ∧
    ∀ (y : Binary64) r', y.InFormat → y.limit? = some r' →
      |q - r| ≤ |q - r'| ∧ (|q - r'| = |q - r| → r' = r ∨ x.IsEven)

theorem IsNearest.compare {q r r' : ℚ} {x y : Binary64} (nearest : IsNearest q x)
    (found : x.limit? = some r) (format : y.InFormat) (found' : y.limit? = some r') :
    |q - r| ≤ |q - r'| ∧ (|q - r'| = |q - r| → r' = r ∨ x.IsEven) := by
  obtain ⟨limit, found₀, best⟩ := nearest.best
  obtain rfl : limit = r := Option.some.inj (found₀.symm.trans found)
  exact best y r' format found'

/-! ## The nearest integer -/

/-- An integer within a half is nearest, and even if it is a half away. -/
theorem nearest_of_half {x : ℚ} {k : Int} (half : |x - k| ≤ 1 / 2)
    (tie : |x - k| = 1 / 2 → k % 2 = 0) (m : Int) :
    |x - k| ≤ |x - m| ∧ (|x - m| = |x - k| → m = k ∨ k % 2 = 0) := by
  by_cases same : m = k
  · rw [same]
    exact ⟨le_refl _, fun _ => Or.inl rfl⟩
  · have apart : (1 : ℚ) ≤ |(k : ℚ) - m| := by
      have apart : 1 ≤ |k - m| := Int.one_le_abs (sub_ne_zero.mpr (Ne.symm same))
      exact_mod_cast apart
    have sum : |(k : ℚ) - m| ≤ |x - k| + |x - m| := by
      have triangle := abs_sub_le (k : ℚ) x m
      rwa [abs_sub_comm (k : ℚ) x] at triangle
    refine ⟨by linarith, fun equal => Or.inr (tie ?_)⟩
    linarith

/-- The rounded quotient is at most a half off, and even if it is exactly a half off. -/
theorem roundQuotient_bounds (num : Nat) {den : Nat} (pos : 0 < den) :
    2 * num ≤ 2 * (roundQuotient num den * den) + den ∧
      2 * (roundQuotient num den * den) ≤ 2 * num + den ∧
      (2 * num = 2 * (roundQuotient num den * den) + den ∨
        2 * (roundQuotient num den * den) = 2 * num + den → roundQuotient num den % 2 = 0) := by
  have split := Nat.div_add_mod' num den
  have small := Nat.mod_lt num pos
  unfold roundQuotient
  dsimp only
  generalize num / den = f at split ⊢
  generalize num % den = rest at split small ⊢
  have next : (f + 1) * den = f * den + den := Nat.succ_mul f den
  by_cases down : 2 * rest < den
  · rw [if_pos down]
    omega
  by_cases up : den < 2 * rest
  · rw [if_neg down, if_pos up, next]
    omega
  · rw [if_neg down, if_neg up]
    rcases Nat.mod_two_eq_zero_or_one f with even | odd
    · rw [even, Nat.add_zero]
      omega
    · rw [odd, next]
      omega

theorem le_roundQuotient (num den : Nat) : num / den ≤ roundQuotient num den := by
  unfold roundQuotient
  dsimp only
  split
  · exact Nat.le_refl _
  · split <;> omega

/-- A quotient is rounded to the nearest integer, and to the even one of two that are. -/
theorem roundQuotient_nearest (num : Nat) {den : Nat} (pos : 0 < den) (m : Int) :
    |(num : ℚ) / den - (roundQuotient num den : Int)| ≤ |(num : ℚ) / den - m| ∧
      (|(num : ℚ) / den - m| = |(num : ℚ) / den - (roundQuotient num den : Int)| →
        m = roundQuotient num den ∨ (roundQuotient num den : Int) % 2 = 0) := by
  obtain ⟨upper, lower, tie⟩ := roundQuotient_bounds num pos
  generalize roundQuotient num den = k at upper lower tie ⊢
  have den_pos : (0 : ℚ) < den := by exact_mod_cast pos
  have off : (num : ℚ) / den - (k : Int) = (num - k * den) / den := by
    rw [Int.cast_natCast, sub_div, mul_div_cancel_right₀ _ den_pos.ne']
  have upper : 2 * (num : ℚ) ≤ 2 * (k * den) + den := by exact_mod_cast upper
  have lower : 2 * (k * den : ℚ) ≤ 2 * num + den := by exact_mod_cast lower
  apply nearest_of_half
  · rw [off, abs_le, le_div_iff₀ den_pos, div_le_iff₀ den_pos]
    constructor <;> linarith
  · intro half
    rw [off, abs_eq (by norm_num), div_eq_iff den_pos.ne', div_eq_iff den_pos.ne'] at half
    have even : k % 2 = 0 := by
      apply tie
      rcases half with above | below
      · left
        have equal : 2 * (num : ℚ) = 2 * (k * den) + den := by linarith
        exact_mod_cast equal
      · right
        have equal : 2 * (k * den : ℚ) = 2 * num + den := by linarith
        exact_mod_cast equal
    omega

/-! ## Units of the last place -/

variable {num den : Nat}

theorem natCast_le_div_iff {k : Nat} (pos : 0 < den) :
    (k : ℚ) ≤ (num : ℚ) / den ↔ k ≤ num / den := by
  have den_pos : (0 : ℚ) < den := by exact_mod_cast pos
  rw [le_div_iff₀ den_pos, Nat.le_div_iff_mul_le pos]
  exact_mod_cast Iff.rfl

theorem inUnits_pos (pos : 0 < den) (num : Nat) (exponent : Int) :
    0 < (inUnits num den exponent).2 :=
  Nat.mul_pos pos (Nat.pow_pos two_pos)

/-- A quotient in units is the quotient by the unit. -/
theorem inUnits_eq (num : Nat) (pos : 0 < den) (exponent : Int) :
    ((inUnits num den exponent).1 : ℚ) / (inUnits num den exponent).2 =
      num / den / 2 ^ exponent := by
  have den_ne : (den : ℚ) ≠ 0 := by exact_mod_cast pos.ne'
  show ((num * 2 ^ (-exponent).toNat : Nat) : ℚ) / ((den * 2 ^ exponent.toNat : Nat) : ℚ) = _
  rw [zpow_eq_div 2]
  push_cast
  field_simp

/-- The logarithms of a quotient's parts tell a power of two below it. -/
theorem two_pow_le_of_log2 (nonzero : num ≠ 0) (pos : 0 < den) :
    (2 : ℚ) ^ 52 ≤ num / den / 2 ^ ((num.log2 : Int) - den.log2 - 53) := by
  have den_pos : (0 : ℚ) < den := by exact_mod_cast pos
  have unit_pos : (0 : ℚ) < 2 ^ ((num.log2 : Int) - den.log2 - 53) := zpow_pos two_pos _
  have numerator : (2 : ℚ) ^ num.log2 ≤ num := by exact_mod_cast Nat.log2_self_le nonzero
  have denominator : (den : ℚ) ≤ 2 ^ (den.log2 + 1) := by
    exact_mod_cast (Nat.lt_log2_self (n := den)).le
  rw [le_div_iff₀ unit_pos, le_div_iff₀ den_pos]
  calc (2 : ℚ) ^ 52 * 2 ^ ((num.log2 : Int) - den.log2 - 53) * den
      ≤ 2 ^ 52 * 2 ^ ((num.log2 : Int) - den.log2 - 53) * 2 ^ (den.log2 + 1) :=
        mul_le_mul_of_nonneg_left denominator (by positivity)
    _ = 2 ^ num.log2 := by
        rw [← zpow_natCast, ← zpow_natCast, ← zpow_natCast, ← zpow_add₀ two_ne_zero,
          ← zpow_add₀ two_ne_zero]
        congr 1
        push_cast
        ring
    _ ≤ num := numerator

/-- In its own units a quotient has 53 binary digits before the point, unless the exponent is the
least one. -/
theorem unitExponent_bounds (nonzero : num ≠ 0) (pos : 0 < den) :
    minExponent ≤ unitExponent num den ∧
      (unitExponent num den = minExponent ∨
        (2 : ℚ) ^ 52 ≤ num / den / 2 ^ unitExponent num den) := by
  have logarithms := two_pow_le_of_log2 nonzero pos
  unfold unitExponent
  simp only [Int.ofNat_eq_natCast]
  generalize (num.log2 : Int) - den.log2 - 53 = guess at logarithms ⊢
  split
  · refine ⟨le_max_right _ _, ?_⟩
    rcases le_total guess minExponent with small | large
    · exact Or.inl (max_eq_right small)
    · rw [max_eq_left large]
      exact Or.inr logarithms
  · rename_i noRoom
    have bound := le_max_right guess minExponent
    generalize max guess minExponent = lower at noRoom bound ⊢
    have large := (natCast_le_div_iff (inUnits_pos pos num lower)).mpr (Nat.le_of_not_lt noRoom)
    rw [inUnits_eq num pos, le_div_iff₀ (zpow_pos two_pos _)] at large
    refine ⟨by omega, Or.inr ?_⟩
    rw [le_div_iff₀ (zpow_pos two_pos _), zpow_add_one₀ two_ne_zero]
    have bound : ((significandBound : Nat) : ℚ) = 2 ^ 52 * 2 := by
      unfold significandBound
      norm_num
    rw [bound] at large
    linarith

theorem zpow_eq_mul_of_le {low high : Int} (le : low ≤ high) :
    (2 : ℚ) ^ high = 2 ^ (high - low).toNat * 2 ^ low := by
  rw [← zpow_natCast, ← zpow_add₀ two_ne_zero]
  congr 1
  omega

theorem abs_sign (negative : Bool) : |(if negative then (-1 : ℚ) else 1)| = 1 := by
  cases negative <;> simp

theorem abs_signed (negative : Bool) (significand : Nat) (exponent : Int) :
    |(if negative then (-1 : ℚ) else 1) * significand * 2 ^ exponent| =
      significand * 2 ^ exponent := by
  rw [abs_mul, abs_mul, abs_sign, one_mul, Nat.abs_cast, abs_of_pos (zpow_pos two_pos _)]

theorem abs_signed_two_pow (negative : Bool) :
    |(if negative then (-1 : ℚ) else 1) * 2 ^ 1024| = 2 ^ 1024 := by
  rw [abs_mul, abs_sign, one_mul, abs_of_pos (pow_pos two_pos _)]

/-- In units of a power of two a number of the format is an integer, or it is too small to need 53
binary digits. -/
theorem limit_cases {y : Binary64} {r : ℚ} (format : y.InFormat) (found : y.limit? = some r)
    {exponent : Int} (le : exponent ≤ maxExponent) :
    (∃ m : Int, r = m * 2 ^ exponent) ∨
      minExponent < exponent ∧ r < 2 ^ 52 * 2 ^ exponent := by
  cases y with
  | nan => cases found
  | infinite negative =>
    cases found
    have most : maxExponent = 971 := rfl
    have power : (2 : ℚ) ^ 1024 = 2 ^ (1024 - exponent).toNat * 2 ^ exponent := by
      rw [← zpow_eq_mul_of_le (by omega)]
      rfl
    refine Or.inl ⟨(if negative then -1 else 1) * 2 ^ (1024 - exponent).toNat, ?_⟩
    rw [power]
    push_cast
    ring
  | finite negative s e =>
    obtain ⟨small, least, -⟩ := format
    cases found
    rcases Int.lt_or_le e exponent with below | above
    · have upper : (s : ℚ) < 2 ^ 53 := by
        have bound : s < 2 ^ 53 := small
        exact_mod_cast bound
      have power : (2 : ℚ) ^ e ≤ 2 ^ (exponent - 1) := zpow_le_zpow_right₀ (by norm_num) (by omega)
      have half : (2 : ℚ) ^ exponent = 2 ^ (exponent - 1) * 2 := by
        rw [← zpow_add_one₀ two_ne_zero, sub_add_cancel]
      refine Or.inr ⟨by omega, ?_⟩
      calc (if negative then (-1 : ℚ) else 1) * s * 2 ^ e
          ≤ s * 2 ^ e := (le_abs_self _).trans (abs_signed negative s e).le
        _ ≤ s * 2 ^ (exponent - 1) := mul_le_mul_of_nonneg_left power (Nat.cast_nonneg s)
        _ < 2 ^ 53 * 2 ^ (exponent - 1) := mul_lt_mul_of_pos_right upper (zpow_pos two_pos _)
        _ = 2 ^ 52 * 2 ^ exponent := by
            rw [half]
            ring
    · refine Or.inl ⟨(if negative then -1 else 1) * s * 2 ^ (e - exponent).toNat, ?_⟩
      rw [zpow_eq_mul_of_le above]
      push_cast
      ring

/-- The multiple of its unit that a quotient is rounded to. -/
def roundedUnits (num den : Nat) : Nat :=
  roundQuotient (inUnits num den (unitExponent num den)).1
    (inUnits num den (unitExponent num den)).2

/-- The nearest multiple of the unit is nearest in the whole format. -/
theorem roundedUnits_nearest (nonzero : num ≠ 0) (pos : 0 < den)
    (le : unitExponent num den ≤ maxExponent) {y : Binary64} {r : ℚ} (format : y.InFormat)
    (found : y.limit? = some r) :
    |(num : ℚ) / den - roundedUnits num den * 2 ^ unitExponent num den| ≤ |(num : ℚ) / den - r| ∧
      (|(num : ℚ) / den - r| =
          |(num : ℚ) / den - roundedUnits num den * 2 ^ unitExponent num den| →
        r = roundedUnits num den * 2 ^ unitExponent num den ∨ roundedUnits num den % 2 = 0) := by
  have integers := roundQuotient_nearest (inUnits num den (unitExponent num den)).1
    (inUnits_pos pos num (unitExponent num den))
  rw [inUnits_eq num pos, ← roundedUnits] at integers
  obtain ⟨-, room⟩ := unitExponent_bounds nonzero pos
  generalize roundedUnits num den = k at integers ⊢
  generalize unitExponent num den = e at *
  generalize (num : ℚ) / den = q at *
  have unit_pos : (0 : ℚ) < 2 ^ e := zpow_pos two_pos e
  have scaled : ∀ m : ℚ, |q - m * 2 ^ e| = |q / 2 ^ e - m| * 2 ^ e := by
    intro m
    rw [← abs_of_pos unit_pos, ← abs_mul, abs_of_pos unit_pos, sub_mul,
      div_mul_cancel₀ _ unit_pos.ne']
  rcases limit_cases format found le with ⟨m, rfl⟩ | ⟨above, small⟩
  · obtain ⟨near, tie⟩ := integers m
    rw [Int.cast_natCast] at near tie
    rw [scaled, scaled]
    refine ⟨mul_le_mul_of_nonneg_right near unit_pos.le, fun equal => ?_⟩
    rcases tie (mul_right_cancel₀ unit_pos.ne' equal) with same | even
    · left
      rw [same, Int.cast_natCast]
    · right
      omega
  · have far : |q - k * 2 ^ e| ≤ |q - ((2 ^ 52 : Int) : ℚ) * 2 ^ e| := by
      have near := (integers (2 ^ 52)).1
      rw [Int.cast_natCast] at near
      rw [scaled, scaled]
      exact mul_le_mul_of_nonneg_right near unit_pos.le
    have large := (le_div_iff₀ unit_pos).mp (room.resolve_left above.ne')
    have closer : |q - k * 2 ^ e| < |q - r| := by
      have power : ((2 ^ 52 : Int) : ℚ) = 2 ^ 52 := by norm_num
      rw [power, abs_of_nonneg (sub_nonneg.mpr large)] at far
      rw [abs_of_pos (show 0 < q - r by linarith)]
      linarith
    exact ⟨closer.le, fun equal => absurd equal closer.ne'⟩

/-! ## The format above and below -/

/-- The least number that is too large for the format. -/
theorem two_pow_mul_maxExponent : (2 : ℚ) ^ 53 * 2 ^ maxExponent = 2 ^ 1024 := by
  rw [← zpow_natCast, ← zpow_natCast, ← zpow_add₀ two_ne_zero]
  rfl

/-- The finite numbers of the format are those with a limit below that of infinity. -/
theorem value?_eq_some_iff {x : Binary64} (format : x.InFormat) {r : ℚ} :
    x.value? = some r ↔ x.limit? = some r ∧ |r| < 2 ^ 1024 := by
  cases x with
  | nan => exact iff_of_false nofun fun found => nomatch found.1
  | infinite negative =>
    refine iff_of_false nofun fun found => ?_
    obtain ⟨found, less⟩ := found
    rw [← Option.some.inj found, abs_signed_two_pow] at less
    exact lt_irrefl _ less
  | finite negative s e =>
    obtain ⟨small, -, most⟩ := format
    refine ⟨fun found => ⟨found, ?_⟩, And.left⟩
    have upper : (s : ℚ) < 2 ^ 53 := by exact_mod_cast small
    have power : (2 : ℚ) ^ e ≤ 2 ^ maxExponent := zpow_le_zpow_right₀ one_le_two most
    rw [← Option.some.inj found, abs_signed, ← two_pow_mul_maxExponent]
    exact mul_lt_mul upper power (zpow_pos two_pos _) (pow_pos two_pos _).le

theorem abs_limit_le {x : Binary64} {r : ℚ} (format : x.InFormat) (found : x.limit? = some r) :
    |r| ≤ 2 ^ 1024 := by
  cases x with
  | nan => cases found
  | infinite negative => rw [← Option.some.inj found, abs_signed_two_pow]
  | finite negative s e => exact ((value?_eq_some_iff format).mp found).2.le

/-- A number beyond the format is rounded to infinity. -/
theorem isNearest_infinite {q : ℚ} (large : 2 ^ 1024 ≤ q) : IsNearest q (.infinite false) := by
  refine ⟨trivial, trivial, _, rfl, ?_⟩
  rw [if_neg Bool.false_ne_true, one_mul]
  intro y r format found
  have le := (le_abs_self r).trans (abs_limit_le format found)
  rw [abs_of_nonneg (sub_nonneg.mpr large), abs_of_nonneg (sub_nonneg.mpr (le.trans large))]
  exact ⟨sub_le_sub_left le q, fun _ => Or.inr trivial⟩

theorem le_abs_limit {y : Binary64} {r : ℚ} (format : y.InFormat) (found : y.limit? = some r) :
    r = 0 ∨ 2 ^ minExponent ≤ |r| := by
  cases y with
  | nan => cases found
  | infinite negative =>
    cases found
    right
    rw [abs_signed_two_pow, ← zpow_natCast]
    exact zpow_le_zpow_right₀ one_le_two (by decide)
  | finite negative s e =>
    obtain ⟨-, least, -⟩ := format
    cases found
    by_cases zero : s = 0
    · left
      rw [zero, Nat.cast_zero, mul_zero, zero_mul]
    · right
      have one : (1 : ℚ) ≤ s := by exact_mod_cast Nat.pos_of_ne_zero zero
      have power : (2 : ℚ) ^ minExponent ≤ 2 ^ e := zpow_le_zpow_right₀ one_le_two least
      rw [abs_signed]
      exact power.trans (le_mul_of_one_le_left (zpow_pos two_pos _).le one)

/-- A number with less than half of the least number of the format is rounded to zero. -/
theorem isNearest_zero {q : ℚ} (nonneg : 0 ≤ q) (small : 2 * q < 2 ^ minExponent) :
    IsNearest q (.finite false 0 minExponent) := by
  refine ⟨⟨by decide, le_refl _, by decide⟩, Or.inl rfl, 0, by simp [limit?, value?], ?_⟩
  intro y r format found
  rw [sub_zero, abs_of_nonneg nonneg]
  refine ⟨?_, fun _ => Or.inr rfl⟩
  rcases le_abs_limit format found with zero | large
  · rw [zero, sub_zero, abs_of_nonneg nonneg]
  · have triangle := abs_sub_abs_le_abs_sub r q
    rw [abs_of_nonneg nonneg, abs_sub_comm] at triangle
    linarith

/-! ## Rounding -/

theorem ofRatio_eq (negative : Bool) (nonzero : num ≠ 0) :
    ofRatio negative num den =
      if roundedUnits num den < significandBound then
        if maxExponent < unitExponent num den then .infinite negative
        else .finite negative (roundedUnits num den) (unitExponent num den)
      else if maxExponent < unitExponent num den + 1 then .infinite negative
      else .finite negative (roundedUnits num den / 2) (unitExponent num den + 1) := by
  unfold ofRatio roundedUnits
  rw [if_neg nonzero]
  dsimp only
  split <;> rfl

theorem roundedUnits_le (num : Nat) (pos : 0 < den) : roundedUnits num den ≤ significandBound := by
  have whole := unitExponent_quotient_lt num pos.ne'
  have rounded := roundQuotient_le (inUnits num den (unitExponent num den)).1
    (inUnits num den (unitExponent num den)).2
  rw [← roundedUnits] at rounded
  omega

theorem roundedUnits_canonical (nonzero : num ≠ 0) (pos : 0 < den) :
    unitExponent num den = minExponent ∨ significandBound ≤ 2 * roundedUnits num den := by
  refine (unitExponent_bounds nonzero pos).2.imp_right fun room => ?_
  have whole := le_roundQuotient (inUnits num den (unitExponent num den)).1
    (inUnits num den (unitExponent num den)).2
  rw [← inUnits_eq num pos] at room
  have floor : 2 ^ 52 ≤ _ :=
    (natCast_le_div_iff (inUnits_pos pos num _)).mp (by exact_mod_cast room)
  have bound : significandBound = 2 * 2 ^ 52 := rfl
  rw [← roundedUnits] at whole
  omega

/-- A number of the format with the value of the rounded units is nearest to a quotient. -/
theorem isNearest_of_roundedUnits (nonzero : num ≠ 0) (pos : 0 < den)
    (le : unitExponent num den ≤ maxExponent) {x : Binary64} (format : x.InFormat)
    (canonical : x.IsCanonical)
    (found : x.limit? = some ((roundedUnits num den : ℚ) * 2 ^ unitExponent num den))
    (even : roundedUnits num den % 2 = 0 → x.IsEven) : IsNearest (num / den) x := by
  refine ⟨format, canonical, _, found, fun y r format' found' => ?_⟩
  obtain ⟨near, tie⟩ := roundedUnits_nearest nonzero pos le format' found'
  exact ⟨near, fun equal => (tie equal).imp_right even⟩

/-- A quotient whose units are beyond the format is itself beyond it. -/
theorem le_of_maxExponent_lt (nonzero : num ≠ 0) (pos : 0 < den)
    (beyond : maxExponent < unitExponent num den) : (2 : ℚ) ^ 1024 ≤ num / den := by
  have least : minExponent = -1074 := rfl
  have most : maxExponent = 971 := rfl
  rcases (unitExponent_bounds nonzero pos).2 with small | room
  · omega
  · rw [le_div_iff₀ (zpow_pos two_pos _)] at room
    have power : (2 : ℚ) ^ 1024 = 2 ^ 52 * 2 ^ (972 : Int) := by
      rw [← zpow_natCast, ← zpow_natCast, ← zpow_add₀ two_ne_zero]
      rfl
    rw [power]
    refine le_trans (mul_le_mul_of_nonneg_left ?_ (pow_pos two_pos _).le) room
    exact zpow_le_zpow_right₀ one_le_two (by omega)

/-- The number that a quotient is rounded to is nearest to it. -/
theorem ofRatio_isNearest (num : Nat) (pos : 0 < den) :
    IsNearest (num / den) (ofRatio false num den) := by
  by_cases zero : num = 0
  · rw [ofRatio, if_pos zero, zero, Nat.cast_zero, zero_div]
    exact isNearest_zero (le_refl _) (by rw [mul_zero]; exact zpow_pos two_pos _)
  have most : maxExponent = 971 := rfl
  have upper := roundedUnits_le num pos
  have least := (unitExponent_bounds zero pos).1
  rw [ofRatio_eq false zero]
  by_cases beyond : maxExponent < unitExponent num den
  · have infinite := isNearest_infinite (le_of_maxExponent_lt zero pos beyond)
    by_cases small : roundedUnits num den < significandBound
    · rwa [if_pos small, if_pos beyond]
    · rwa [if_neg small, if_pos (by omega)]
  have le := Int.not_lt.mp beyond
  have nearest := @isNearest_of_roundedUnits num den zero pos le
  by_cases small : roundedUnits num den < significandBound
  · rw [if_pos small, if_neg beyond]
    have canonical := roundedUnits_canonical zero pos
    exact nearest ⟨small, least, le⟩ canonical (by simp [limit?, value?]) id
  -- Rounded up to a power of two, the significand is halved.
  have power : roundedUnits num den = 2 ^ 53 := Nat.le_antisymm upper (Nat.le_of_not_lt small)
  rw [if_neg small]
  rw [power] at nearest ⊢
  by_cases top : maxExponent < unitExponent num den + 1
  · have exponent : unitExponent num den = maxExponent := by omega
    rw [if_pos top]
    refine nearest trivial trivial ?_ fun _ => trivial
    rw [exponent, limit?, if_neg Bool.false_ne_true, one_mul, Nat.cast_pow, Nat.cast_ofNat,
      two_pow_mul_maxExponent]
  · have half : (2 ^ 53 / 2 : Nat) = 2 ^ 52 := by decide
    rw [if_neg top, half]
    refine nearest ⟨by decide, by omega, by omega⟩ (Or.inr (by decide)) ?_ fun _ => rfl
    rw [limit?_finite, if_neg Bool.false_ne_true, one_mul, zpow_add_one₀ two_ne_zero]
    congr 1
    push_cast
    ring

end TableDdl.Binary64
