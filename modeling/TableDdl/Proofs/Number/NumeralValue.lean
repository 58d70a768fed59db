import TableDdl.Number.Numeral
import TableDdl.Proofs.Number.OnlyNearest
import TableDdl.Proofs.Text.Digits

/-!
# The values of numerals

A numeral is rounded to the binary64 number that is nearest to its value (`toBinary64_isNearest`),
also where the rounding looks at the number of its places alone. That number is the only nearest one
but for the sign of zero, so a numeral whose value is an integer of at most 53 binary digits is
converted to this integer, however it is written.
-/

namespace TableDdl

namespace Binary64

/-! ## Powers of ten -/

/-- A number has at most its places before the point. -/
theorem lt_ten_zpow (digits : Nat) (exponent : Int) :
    (digits : ℚ) * 10 ^ exponent < 10 ^ ((Nat.toDigits 10 digits).length + exponent) := by
  have length : (Text.ofNat digits).length = (Nat.toDigits 10 digits).length := List.length_map _
  have bound : digits < 10 ^ (Nat.toDigits 10 digits).length := by
    rw [← length]
    refine (Text.length_ofNat_le_iff ?_).mp (Nat.le_refl _)
    exact List.length_pos_iff.mpr (Text.ofNat_ne_nil digits)
  have bound : (digits : ℚ) < 10 ^ (Nat.toDigits 10 digits).length := by exact_mod_cast bound
  rw [zpow_add₀ (by norm_num), zpow_natCast]
  exact mul_lt_mul_of_pos_right bound (zpow_pos (by norm_num) _)

/-- The first of the places before the point is occupied. -/
theorem ten_zpow_le {digits : Nat} (nonzero : digits ≠ 0) (exponent : Int) :
    (10 : ℚ) ^ ((Nat.toDigits 10 digits).length + exponent - 1) ≤ digits * 10 ^ exponent := by
  have length : (Text.ofNat digits).length = (Nat.toDigits 10 digits).length := List.length_map _
  have positive : 0 < (Text.ofNat digits).length := List.length_pos_iff.mpr (Text.ofNat_ne_nil _)
  obtain ⟨more, eq⟩ := Nat.exists_eq_add_of_lt positive
  have bound : 10 ^ more ≤ digits := by
    by_cases one : more = 0
    · rw [one]
      exact Nat.pos_of_ne_zero nonzero
    · refine Nat.le_of_not_lt fun lt => ?_
      have short := (Text.length_ofNat_le_iff (Nat.pos_of_ne_zero one)).mpr lt
      omega
  have bound : (10 : ℚ) ^ more ≤ digits := by exact_mod_cast bound
  have split : ((Nat.toDigits 10 digits).length + exponent - 1 : Int) = more + exponent := by omega
  rw [split, zpow_add₀ (by norm_num), zpow_natCast]
  exact mul_le_mul_of_nonneg_right bound (zpow_pos (by norm_num) _).le

/-- With more than 310 places before the point a number is too large for the format. -/
theorem two_pow_le_ten_zpow {places : Int} (many : 310 < places) :
    (2 : ℚ) ^ 1024 ≤ 10 ^ (places - 1) := by
  have power : (2 : ℚ) ^ 1024 ≤ 10 ^ 310 := by
    have power : 2 ^ 1024 ≤ 10 ^ 310 := by decide +kernel
    exact_mod_cast power
  refine power.trans ?_
  rw [← zpow_natCast]
  exact zpow_le_zpow_right₀ (by norm_num) (by omega)

/-- With more than 330 zeros after the point a number is less than half of the least one of the
format. -/
theorem two_mul_ten_zpow_lt {places : Int} (few : places < -330) :
    2 * (10 : ℚ) ^ places < 2 ^ minExponent := by
  have power : 2 * (2 : ℚ) ^ 1074 < 10 ^ 331 := by
    have power : 2 * 2 ^ 1074 < 10 ^ 331 := by decide +kernel
    exact_mod_cast power
  have tiny : 2 * (10 : ℚ) ^ (-331 : Int) < 2 ^ (-1074 : Int) := by
    rw [zpow_neg, zpow_neg, ← div_eq_mul_inv, ← one_div, div_lt_div_iff₀ (zpow_pos (by norm_num) _)
      (zpow_pos two_pos _), one_mul]
    exact power
  have le : (10 : ℚ) ^ places ≤ 10 ^ (-331 : Int) := zpow_le_zpow_right₀ (by norm_num) (by omega)
  exact (mul_le_mul_of_nonneg_left le two_pos.le).trans_lt tiny

/-! ## Rounding numerals -/

theorem ofRatio_true (num den : Nat) : ofRatio true num den = (ofRatio false num den).neg := by
  unfold ofRatio
  dsimp only
  split
  · rfl
  · split <;> split <;> rfl

theorem ofDecimal_true (digits : Nat) (exponent : Int) :
    ofDecimal true digits exponent = (ofDecimal false digits exponent).neg := by
  unfold ofDecimal
  dsimp only
  split
  · rfl
  · split
    · rfl
    · exact ofRatio_true _ _

/-- The number that a decimal is rounded to is nearest to it. -/
theorem ofDecimal_isNearest (digits : Nat) (exponent : Int) :
    IsNearest (digits * 10 ^ exponent) (ofDecimal false digits exponent) := by
  have nonneg : (0 : ℚ) ≤ digits * 10 ^ exponent :=
    mul_nonneg (Nat.cast_nonneg _) (zpow_pos (by norm_num) _).le
  unfold ofDecimal
  simp only [Int.ofNat_eq_natCast]
  by_cases zero : digits = 0
  · rw [if_pos (Or.inl zero), zero, Nat.cast_zero, zero_mul]
    exact isNearest_zero (le_refl _) (by rw [mul_zero]; exact zpow_pos two_pos _)
  by_cases few : (Nat.toDigits 10 digits).length + exponent < -330
  · rw [if_pos (Or.inr few)]
    apply isNearest_zero nonneg
    have upper := lt_ten_zpow digits exponent
    have lower := two_mul_ten_zpow_lt few
    linarith
  rw [if_neg (not_or.mpr ⟨zero, few⟩)]
  by_cases many : 310 < (Nat.toDigits 10 digits).length + exponent
  · rw [if_pos many]
    exact isNearest_infinite ((two_pow_le_ten_zpow many).trans (ten_zpow_le zero exponent))
  · rw [if_neg many]
    have value : (digits : ℚ) * 10 ^ exponent =
        ((digits * 10 ^ exponent.toNat : Nat) : ℚ) / ((10 ^ (-exponent).toNat : Nat) : ℚ) := by
      rw [zpow_eq_div 10]
      push_cast
      exact (mul_div_assoc _ _ _).symm
    rw [value]
    exact ofRatio_isNearest _ (Nat.pow_pos (by decide))

theorem exists_limit?_natCast {k : Nat} (small : k ≤ 2 ^ 53) :
    ∃ y : Binary64, y.InFormat ∧ y.limit? = some (k : ℚ) := by
  rcases Nat.lt_or_eq_of_le small with lt | eq
  · refine ⟨.finite false k 0, ⟨lt, by decide, by decide⟩, ?_⟩
    rw [limit?_finite, if_neg Bool.false_ne_true, one_mul, zpow_zero, mul_one]
  · refine ⟨.finite false (2 ^ 52) 1, ⟨by decide, by decide, by decide⟩, ?_⟩
    rw [limit?_finite, if_neg Bool.false_ne_true, one_mul, zpow_one, eq]
    norm_num

/-- An integer of at most 53 binary digits, or the first of 54, is a number of the format. -/
theorem exists_limit?_intCast {n : Int} (small : n.natAbs ≤ 2 ^ 53) :
    ∃ y : Binary64, y.InFormat ∧ y.limit? = some (n : ℚ) := by
  obtain ⟨y, format, found⟩ := exists_limit?_natCast small
  rcases Int.natAbs_eq n with positive | negative
  · refine ⟨y, format, ?_⟩
    rw [found, positive, Int.natAbs_natCast, Int.cast_natCast]
  · refine ⟨y.neg, format.neg, ?_⟩
    rw [limit?_neg, found, negative, Int.natAbs_neg, Int.natAbs_natCast, Int.cast_neg,
      Int.cast_natCast, Option.map_some]

/-- An integer of at most 53 binary digits, or the first of 54, is rounded to itself. -/
theorem IsNearest.value?_eq {n : Int} {x : Binary64} (nearest : IsNearest n x)
    (small : n.natAbs ≤ 2 ^ 53) : x.value? = some (n : ℚ) := by
  obtain ⟨y, format, found⟩ := exists_limit?_intCast small
  obtain ⟨r, limit, -⟩ := nearest.best
  have near := (nearest.compare limit format found).1
  rw [sub_self, abs_zero] at near
  have same : r = n := (sub_eq_zero.mp (abs_nonpos_iff.mp near)).symm
  have below : |(n : ℚ)| ≤ 2 ^ 53 := by
    rw [← Int.cast_abs, ← Nat.cast_natAbs]
    exact_mod_cast small
  have finite : (2 : ℚ) ^ 53 < 2 ^ 1024 := pow_lt_pow_right₀ one_lt_two (by decide)
  exact (value?_eq_some_iff nearest.inFormat).mpr ⟨same ▸ limit, below.trans_lt finite⟩

end Binary64

/-- The rational number that a numeral stands for. -/
def Numeral.value (m : Numeral) : ℚ :=
  (if m.negative then -1 else 1) * Text.digitsValue (m.whole ++ m.fraction) *
    10 ^ (m.exponent - m.fraction.length)

/-- A numeral is rounded to the number that is nearest to its value. -/
theorem Numeral.toBinary64_isNearest (m : Numeral) : Binary64.IsNearest m.value m.toBinary64 := by
  obtain ⟨negative, whole, fraction, exponent⟩ := m
  have positive := Binary64.ofDecimal_isNearest (Text.digitsValue (whole ++ fraction))
    (exponent - fraction.length)
  cases negative with
  | false =>
    rw [value, if_neg Bool.false_ne_true, one_mul]
    exact positive
  | true =>
    rw [value, if_pos rfl, neg_one_mul, neg_mul, toBinary64, Binary64.ofDecimal_true]
    exact positive.neg

end TableDdl
