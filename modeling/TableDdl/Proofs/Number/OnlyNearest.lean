import TableDdl.Proofs.Number.Nearest

/-!
# The only nearest binary64 number

There is one nearest number to each rational number, but for the sign of zero
(`IsNearest.limit?_unique`). Two different ones would be neighbours with even significands; but
between two such numbers there is always a third one, with an odd significand.
-/

namespace TableDdl.Binary64

/-! ## Signs -/

/-- The number with the other sign. -/
def neg : Binary64 → Binary64
  | .nan => .nan
  | .infinite negative => .infinite !negative
  | .finite negative significand exponent => .finite (!negative) significand exponent

theorem limit?_neg (x : Binary64) : x.neg.limit? = x.limit?.map (- ·) := by
  have sign : ∀ negative : Bool,
      (if !negative then (-1 : ℚ) else 1) = -(if negative then -1 else 1) := by
    intro negative
    cases negative <;> simp
  cases x with
  | nan => rfl
  | infinite negative => rw [neg, limit?, limit?, sign, neg_mul, Option.map_some]
  | finite negative significand exponent =>
    rw [neg, limit?_finite, limit?_finite, sign, neg_mul, neg_mul, Option.map_some]

theorem InFormat.neg {x : Binary64} (format : x.InFormat) : x.neg.InFormat := by
  cases x <;> exact format

/-- Rounding treats both signs alike. -/
theorem IsNearest.neg {q : ℚ} {x : Binary64} (nearest : IsNearest q x) :
    IsNearest (-q) x.neg := by
  obtain ⟨format, canonical, r, found, best⟩ := nearest
  have even : x.IsEven → x.neg.IsEven := by
    intro even
    cases x <;> exact even
  refine ⟨format.neg, ?_, -r, by rw [limit?_neg, found, Option.map_some], ?_⟩
  · cases x <;> exact canonical
  · intro y r' format' found'
    have mirrored : y.neg.limit? = some (-r') := by rw [limit?_neg, found', Option.map_some]
    obtain ⟨near, tie⟩ := best y.neg (-r') format'.neg mirrored
    have here : |-q - -r| = |q - r| := by rw [neg_sub_neg, abs_sub_comm]
    have there : |-q - r'| = |q - -r'| := by
      rw [← abs_neg, neg_sub_left, sub_neg_eq_add, neg_neg, add_comm]
    rw [here, there]
    refine ⟨near, fun equal => (tie equal).imp (fun same => ?_) even⟩
    rw [← same, neg_neg]

/-! ## Neighbours -/

/-- What lies between two numbers is nearer to any third number than one of them. -/
theorem not_between {q r z r' : ℚ} (near : |q - r| ≤ |q - z|) (near' : |q - r'| ≤ |q - z|)
    (above : r < z) (below : z < r') : False := by
  rcases le_total q z with left | right
  · rw [abs_of_nonpos (sub_nonpos.mpr left), abs_of_nonpos (by linarith)] at near'
    linarith
  · rw [abs_of_nonneg (sub_nonneg.mpr right), abs_of_nonneg (by linarith)] at near
    linarith

/-- A number whose limit is not negative is a multiple of its unit. -/
theorem exists_units {x : Binary64} {r : ℚ} (found : x.limit? = some r) (nonneg : 0 ≤ r) :
    (∃ negative, x = .infinite negative ∧ r = 2 ^ 1024) ∨
      ∃ negative s e, x = .finite negative s e ∧ r = s * 2 ^ e := by
  cases x with
  | nan => cases found
  | infinite negative =>
    refine Or.inl ⟨negative, rfl, ?_⟩
    rw [← abs_of_nonneg nonneg, ← Option.some.inj found, abs_signed_two_pow]
  | finite negative s e =>
    refine Or.inr ⟨negative, s, e, rfl, ?_⟩
    rw [← abs_of_nonneg nonneg, ← Option.some.inj found, abs_signed]

/-- The next multiple of the unit of an even number is odd, so it is no even number of the
format. -/
theorem succ_units_ne {s s' : Nat} {e e' : Int} (small' : s' < significandBound)
    (least' : minExponent ≤ e') (canonical : e = minExponent ∨ significandBound ≤ 2 * s)
    (even : s % 2 = 0) (even' : s' % 2 = 0) :
    ((s + 1 : Nat) : ℚ) * 2 ^ e ≠ s' * 2 ^ e' := by
  intro equal
  rcases le_or_gt e e' with le | lt
  · rw [zpow_eq_mul_of_le le, ← mul_assoc] at equal
    have multiple : s + 1 = s' * 2 ^ (e' - e).toNat := by
      exact_mod_cast mul_right_cancel₀ (zpow_pos two_pos e).ne' equal
    have parity : s' * 2 ^ (e' - e).toNat % 2 = 0 := by
      rw [Nat.mul_mod, even', Nat.zero_mul, Nat.zero_mod]
    omega
  · rw [zpow_eq_mul_of_le lt.le, ← mul_assoc] at equal
    have multiple : (s + 1) * 2 ^ (e - e').toNat = s' := by
      exact_mod_cast mul_right_cancel₀ (zpow_pos two_pos e').ne' equal
    have double : (s + 1) * 2 ≤ (s + 1) * 2 ^ (e - e').toNat :=
      Nat.mul_le_mul_left _ (Nat.le_self_pow (by omega) 2)
    omega

/-- Between an even number of the format and a greater even one there is a third number. -/
theorem exists_between {x y : Binary64} {r r' : ℚ} (format : x.InFormat)
    (canonical : x.IsCanonical) (even : x.IsEven) (found : x.limit? = some r)
    (format' : y.InFormat) (even' : y.IsEven) (found' : y.limit? = some r') (nonneg : 0 ≤ r)
    (lt : r < r') :
    ∃ (z : Binary64) (t : ℚ), z.InFormat ∧ z.limit? = some t ∧ r < t ∧ t < r' := by
  rcases exists_units found nonneg with ⟨negative, rfl, rfl⟩ | ⟨negative, s, e, rfl, rfl⟩
  · exact absurd ((le_abs_self r').trans (abs_limit_le format' found')) lt.not_ge
  obtain ⟨small, least, most⟩ := format
  have bound : significandBound = 2 ^ 53 := rfl
  have even : s % 2 = 0 := even
  have unit_pos : (0 : ℚ) < 2 ^ e := zpow_pos two_pos e
  have inFormat : (finite false (s + 1) e).InFormat := ⟨by omega, least, most⟩
  have next : (finite false (s + 1) e).value? = some (((s + 1 : Nat) : ℚ) * 2 ^ e) := by
    rw [value?, if_neg Bool.false_ne_true, one_mul]
  obtain ⟨limit, less⟩ := (value?_eq_some_iff inFormat).mp next
  refine ⟨_, _, inFormat, limit, ?_, lt_of_le_of_ne ?_ ?_⟩
  · have above : (s : ℚ) < (s + 1 : Nat) := by exact_mod_cast Nat.lt_succ_self s
    exact mul_lt_mul_of_pos_right above unit_pos
  · rcases limit_cases format' found' most with ⟨m, rfl⟩ | ⟨above, below⟩
    · have le : (s : Int) < m := by exact_mod_cast lt_of_mul_lt_mul_right lt unit_pos.le
      have le : ((s + 1 : Nat) : ℚ) ≤ m := by exact_mod_cast le
      exact mul_le_mul_of_nonneg_right le unit_pos.le
    · have full : 2 ^ 52 ≤ s := by
        have full := canonical.resolve_left above.ne'
        omega
      have full : (2 : ℚ) ^ 52 ≤ s := by exact_mod_cast full
      exact absurd (below.trans_le (mul_le_mul_of_nonneg_right full unit_pos.le)) lt.not_gt
  · rcases exists_units found' (nonneg.trans lt.le) with
      ⟨negative', -, rfl⟩ | ⟨negative', s', e', rfl, rfl⟩
    · exact ((le_abs_self _).trans_lt less).ne
    · exact succ_units_ne format'.1 format'.2.1 canonical even even'

/-! ## Uniqueness -/

variable {q r r' : ℚ} {x y : Binary64}

/-- No two nearest numbers of which the smaller is not negative are different. -/
theorem IsNearest.not_lt_of_nonneg (first : IsNearest q x) (second : IsNearest q y)
    (found : x.limit? = some r) (found' : y.limit? = some r') (nonneg : 0 ≤ r) : ¬ r < r' := by
  intro lt
  obtain ⟨near, tie⟩ := first.compare found second.inFormat found'
  obtain ⟨near', tie'⟩ := second.compare found' first.inFormat found
  have even := (tie (le_antisymm near' near)).resolve_left lt.ne'
  have even' := (tie' (le_antisymm near near')).resolve_left lt.ne
  obtain ⟨z, t, format, between, above, below⟩ := exists_between first.inFormat first.isCanonical
    even found second.inFormat even' found' nonneg lt
  exact not_between (first.compare found format between).1
    (second.compare found' format between).1 above below

theorem IsNearest.not_lt (first : IsNearest q x) (second : IsNearest q y)
    (found : x.limit? = some r) (found' : y.limit? = some r') : ¬ r < r' := by
  intro lt
  rcases le_or_gt 0 r with nonneg | negative
  · exact first.not_lt_of_nonneg second found found' nonneg lt
  rcases le_or_gt r' 0 with nonpos | positive
  · have mirrored : x.neg.limit? = some (-r) := by rw [limit?_neg, found, Option.map_some]
    have mirrored' : y.neg.limit? = some (-r') := by rw [limit?_neg, found', Option.map_some]
    exact second.neg.not_lt_of_nonneg first.neg mirrored' mirrored (neg_nonneg.mpr nonpos)
      (neg_lt_neg lt)
  · -- Zero lies between numbers of different signs.
    have format : (finite false 0 0).InFormat := ⟨by decide, by decide, by decide⟩
    have zero : (finite false 0 0).limit? = some 0 := by
      rw [limit?_finite, Nat.cast_zero, mul_zero, zero_mul]
    exact not_between (first.compare found format zero).1 (second.compare found' format zero).1
      negative positive

/-- All nearest numbers to a rational number have the same limit. -/
theorem IsNearest.limit?_unique (first : IsNearest q x) (second : IsNearest q y) :
    x.limit? = y.limit? := by
  obtain ⟨r, found, -⟩ := first.best
  obtain ⟨r', found', -⟩ := second.best
  have le := le_of_not_gt (second.not_lt first found' found)
  have ge := le_of_not_gt (first.not_lt second found found')
  rw [found, found', le_antisymm le ge]

/-- All nearest numbers to a rational number have the same value, if they are finite. -/
theorem IsNearest.value?_unique (first : IsNearest q x) (second : IsNearest q y) :
    x.value? = y.value? := by
  ext r
  rw [value?_eq_some_iff first.inFormat, value?_eq_some_iff second.inFormat,
    first.limit?_unique second]

end TableDdl.Binary64
