import Mathlib.Data.List.Induction
import TableDdl.Text.Basic

/-!
# Decimal digits

The digits of a number stand for that number and for no other, and they are read off a text in one
way only: what comes after a row of digits begins with no digit.
-/

namespace TableDdl.Text

/-! ## Where a row of code points ends -/

/-- A text begins with code points of a class, and one outside of the class follows. The row, the
code point after it and the rest are then fixed. -/
theorem append_cons_inj {inClass : CodePoint → Bool} {row row' rest rest' : Text}
    {p p' : CodePoint} (row_in : ∀ q ∈ row, inClass q) (row_in' : ∀ q ∈ row', inClass q)
    (p_out : inClass p = false) (p_out' : inClass p' = false)
    (eq : row ++ p :: rest = row' ++ p' :: rest') : row = row' ∧ p = p' ∧ rest = rest' := by
  induction row generalizing row' with
  | nil =>
    cases row' with
    | nil => simpa using eq
    | cons q' row' =>
      obtain ⟨same, -⟩ := List.cons.inj eq
      rw [same, row_in' q' (by simp)] at p_out
      cases p_out
  | cons q row ih =>
    cases row' with
    | nil =>
      obtain ⟨same, -⟩ := List.cons.inj eq
      rw [← same, row_in q (by simp)] at p_out'
      cases p_out'
    | cons q' row' =>
      obtain ⟨same, eq⟩ := List.cons.inj eq
      obtain ⟨rfl, rfl, rfl⟩ := ih (fun c mem => row_in c (by simp [mem]))
        (fun c mem => row_in' c (by simp [mem])) eq
      exact ⟨by rw [same], rfl, rfl⟩

/-! ## Natural numbers -/

theorem isDigit_of_mem_ofNat {n : Nat} {p : CodePoint} (mem : p ∈ ofNat n) : p.isDigit := by
  obtain ⟨c, digit, rfl⟩ := List.mem_map.mp mem
  exact Nat.isDigit_of_mem_toDigits (b := 10) (by decide) (by decide) digit

theorem ofNat_ne_nil (n : Nat) : ofNat n ≠ [] := by
  simp [ofNat]

theorem length_ofNat_le_iff {n width : Nat} (pos : 0 < width) :
    (ofNat n).length ≤ width ↔ n < Nat.pow 10 width := by
  rw [ofNat, List.length_map]
  exact Nat.length_toDigits_le_iff (by decide) pos

/-- A power of ten is the first number with one digit more. -/
theorem length_ofNat_pow (width : Nat) (pos : 0 < width) :
    (ofNat (Nat.pow 10 width)).length = width + 1 := by
  have atMost : (ofNat (Nat.pow 10 width)).length ≤ width + 1 :=
    (length_ofNat_le_iff (Nat.succ_pos _)).mpr
      (Nat.pow_lt_pow_right (by decide) (Nat.lt_succ_self _))
  have more : width < (ofNat (Nat.pow 10 width)).length :=
    Nat.lt_of_not_le fun le => Nat.lt_irrefl _ ((length_ofNat_le_iff pos).mp le)
  exact Nat.le_antisymm atMost more

theorem digit?_digitChar {d : Nat} (lt : d < 10) :
    (CodePoint.scalar d.digitChar).digit? = some d := by
  simp only [CodePoint.digit?, Nat.isDigit_digitChar, lt, decide_true, if_true, Option.some.injEq]
  exact Nat.toNat_digitChar_sub_48_of_lt_ten lt

theorem bounds_of_isDigit {c : Char} (digit : c.isDigit) : 48 ≤ c.toNat ∧ c.toNat ≤ 57 := by
  simpa [Char.isDigit, UInt32.le_iff_toNat_le] using digit

theorem digitChar_toNat_sub {c : Char} (bounds : 48 ≤ c.toNat ∧ c.toNat ≤ 57) :
    (c.toNat - 48).digitChar = c := by
  have chars : ∀ d < 10, Nat.digitChar d = Char.ofNat (48 + d) := by decide
  rw [chars _ (by omega), Nat.add_sub_cancel' bounds.1, Char.ofNat_toNat]

theorem exists_digitChar_of_isDigit {p : CodePoint} (digit : p.isDigit) :
    ∃ d < 10, p = .scalar d.digitChar := by
  cases p with
  | surrogate offset => cases digit
  | scalar c =>
    have bounds := bounds_of_isDigit digit
    exact ⟨c.toNat - 48, by omega, by rw [digitChar_toNat_sub bounds]⟩

theorem digitsValue_append_singleton (digits : Text) (p : CodePoint) :
    digitsValue (digits ++ [p]) = 10 * digitsValue digits + p.digit?.getD 0 := by
  simp [digitsValue]

theorem ofNat_of_lt {d : Nat} (lt : d < 10) : ofNat d = [.scalar d.digitChar] := by
  rw [ofNat, Nat.toDigits_of_lt_base lt, List.map_singleton]

theorem ofNat_of_le {n : Nat} (le : 10 ≤ n) :
    ofNat n = ofNat (n / 10) ++ [.scalar (n % 10).digitChar] := by
  rw [ofNat, Nat.toDigits_of_base_le (by decide) le, List.map_append, List.map_singleton, ofNat]

/-- The digits of a number have that number as their value. -/
@[simp] theorem digitsValue_ofNat (n : Nat) : digitsValue (ofNat n) = n := by
  induction n using Nat.strongRecOn with
  | ind n ih =>
    by_cases lt : n < 10
    · rw [ofNat_of_lt lt]
      simp [digitsValue, digit?_digitChar lt]
    · have digit : n % 10 < 10 := Nat.mod_lt n (by decide)
      rw [ofNat_of_le (Nat.le_of_not_lt lt), digitsValue_append_singleton, ih (n / 10) (by omega),
        digit?_digitChar digit, Option.getD_some]
      omega

/-- Digits without a zero in front are those of their value. -/
theorem ofNat_digitsValue {digits : Text} (nonempty : digits ≠ [])
    (noZero : ∀ p ∈ digits.head?, p ≠ .scalar '0') (all : ∀ p ∈ digits, p.isDigit) :
    ofNat (digitsValue digits) = digits := by
  induction digits using List.reverseRecOn with
  | nil => exact absurd rfl nonempty
  | append_singleton front p ih =>
    obtain ⟨front_all, last⟩ := List.forall_mem_append.mp all
    obtain ⟨d, lt, rfl⟩ := exists_digitChar_of_isDigit (last p List.mem_cons_self)
    have value := digitsValue_append_singleton front (.scalar d.digitChar)
    rw [digit?_digitChar lt, Option.getD_some] at value
    by_cases single : front = []
    · have none : digitsValue [] = 0 := rfl
      rw [value, single, none, Nat.mul_zero, Nat.zero_add, List.nil_append, ofNat_of_lt lt]
    · obtain ⟨q, more, rfl⟩ := List.exists_cons_of_ne_nil single
      have same := ih single noZero front_all
      have positive : digitsValue (q :: more) ≠ 0 := by
        intro zero
        rw [zero] at same
        exact noZero q rfl (List.cons.inj same).1.symm
      rw [value, ofNat_of_le (by omega)]
      have quotient : (10 * digitsValue (q :: more) + d) / 10 = digitsValue (q :: more) := by omega
      have rest : (10 * digitsValue (q :: more) + d) % 10 = d := by omega
      rw [quotient, rest, same]

theorem ofNat_injective {m n : Nat} (eq : ofNat m = ofNat n) : m = n := by
  rw [← digitsValue_ofNat m, eq, digitsValue_ofNat]

/-- Only zero is written with a zero in front. -/
theorem eq_zero_of_ofNat_eq_cons {n : Nat} {rest : Text} (eq : ofNat n = .scalar '0' :: rest) :
    n = 0 := by
  induction n using Nat.strongRecOn generalizing rest with
  | ind n ih =>
    by_cases lt : n < 10
    · rw [ofNat_of_lt lt] at eq
      have digit := CodePoint.scalar.inj (List.cons.inj eq).1
      exact Nat.digitChar_eq_zero.mp digit
    · have le := Nat.le_of_not_lt lt
      obtain ⟨p, front, front_eq⟩ := List.exists_cons_of_ne_nil (ofNat_ne_nil (n / 10))
      rw [ofNat_of_le le, front_eq, List.cons_append] at eq
      rw [(List.cons.inj eq).1] at front_eq
      have := ih (n / 10) (by omega) front_eq
      omega

/-! ## Integers -/

/-- The code points that an integer is written with. -/
def isSignOrDigit (p : CodePoint) : Bool :=
  p = .scalar '-' || p.isDigit

theorem isSignOrDigit_of_mem_ofInt {i : Int} {p : CodePoint} (mem : p ∈ ofInt i) :
    isSignOrDigit p := by
  cases i with
  | ofNat n => simp [isSignOrDigit, isDigit_of_mem_ofNat mem]
  | negSucc n =>
    rcases List.mem_cons.mp mem with rfl | mem
    · rfl
    · simp [isSignOrDigit, isDigit_of_mem_ofNat mem]

/-- The digits of a number do not begin with a sign. -/
theorem ofNat_ne_sign_cons (n : Nat) (rest : Text) : ofNat n ≠ .scalar '-' :: rest := by
  intro eq
  have sign : CodePoint.isDigit (.scalar '-') := isDigit_of_mem_ofNat (n := n) (by simp [eq])
  cases sign

theorem ofInt_injective {i j : Int} (eq : ofInt i = ofInt j) : i = j := by
  cases i with
  | ofNat m =>
    cases j with
    | ofNat n => rw [ofNat_injective eq]
    | negSucc n => exact (ofNat_ne_sign_cons m _ eq).elim
  | negSucc m =>
    cases j with
    | ofNat n => exact (ofNat_ne_sign_cons n _ eq.symm).elim
    | negSucc n =>
      have same := ofNat_injective (List.cons.inj eq).2
      rw [Nat.succ.inj same]

end TableDdl.Text
