import TableDdl.Json.Basic
import TableDdl.Number.Numeral

/-!
# Numbers in JSON texts

A number is read as far as it goes: a point without a digit after it and an exponent without digits
do not belong to it. A number without a fraction and an exponent is an integer.
-/

namespace TableDdl.Json

/-- The most digits that an integer may have. -/
def maxIntegerDigits : Nat := 4300

/-- The digits before the point: a zero, or digits that do not start with one. -/
def splitWhole (t : Text) : Text × Text :=
  match t with
  | .scalar '0' :: rest => (['0'], rest)
  | t => Numeral.splitDigits t

/-- The digits after the point, if there is a point with at least one digit. -/
def splitFraction (t : Text) : Text × Text :=
  match t with
  | .scalar '.' :: rest =>
    match Numeral.splitDigits rest with
    | ([], _) => ([], t)
    | found => found
  | t => ([], t)

/-- A number at the start of a text, or an integer with more digits than are read. -/
inductive ScannedNumber where
  | value (value : Json)
  | long (digits : Nat)
  deriving Repr

/-- Reads a number whose sign has been read, and gives what follows it. Without a fraction and an
exponent it is an integer. -/
def scanNumber? (negative : Bool) (t : Text) : Option (ScannedNumber × Text) :=
  let (whole, rest) := splitWhole t
  if whole.isEmpty then none
  else
    let (fraction, rest) := splitFraction rest
    match Numeral.splitExponent? rest with
    | some (exponent, rest) =>
      some (.value (.real (Numeral.toBinary64 ⟨negative, whole, fraction, exponent⟩)), rest)
    | none =>
      if fraction.isEmpty then
        if maxIntegerDigits < whole.length then some (.long whole.length, rest)
        else
          let magnitude := Int.ofNat (Text.digitsValue whole)
          some (.value (.int (if negative then -magnitude else magnitude)), rest)
      else some (.value (.real (Numeral.toBinary64 ⟨negative, whole, fraction, 0⟩)), rest)

/-- Reads a number with its sign, and gives what follows it. -/
def scanSigned? (t : Text) : Option (ScannedNumber × Text) :=
  match t with
  | .scalar '-' :: rest => scanNumber? true rest
  | t => scanNumber? false t

theorem length_of_splitDigits {t whole rest : Text} (h : Numeral.splitDigits t = (whole, rest)) :
    whole.length + rest.length = t.length := by
  simp only [Numeral.splitDigits, Prod.mk.injEq] at h
  obtain ⟨rfl, rfl⟩ := h
  rw [← List.length_append, List.takeWhile_append_dropWhile]

theorem length_of_splitWhole {t whole rest : Text} (h : splitWhole t = (whole, rest)) :
    whole.length + rest.length = t.length := by
  unfold splitWhole at h
  split at h
  · cases h
    simp
    omega
  · exact length_of_splitDigits h

theorem length_of_splitFraction {t fraction rest : Text} (h : splitFraction t = (fraction, rest)) :
    rest.length ≤ t.length := by
  unfold splitFraction at h
  split at h
  · split at h
    · cases h
      simp
    · have := length_of_splitDigits h
      simp
      omega
  · cases h
    simp

theorem length_splitSign_le (t : Text) : (Numeral.splitSign t).2.length ≤ t.length := by
  unfold Numeral.splitSign
  split <;> simp

theorem length_of_splitExponent? {t rest : Text} {exponent : Int}
    (h : Numeral.splitExponent? t = some (exponent, rest)) : rest.length ≤ t.length := by
  unfold Numeral.splitExponent? at h
  split at h
  · rename_i c tail
    split at h
    · simp only at h
      split at h
      · cases h
      · cases h
        have sign := length_splitSign_le tail
        have digits := length_of_splitDigits (t := (Numeral.splitSign tail).2) rfl
        simp only [Numeral.splitDigits, List.length_cons] at digits ⊢
        omega
    · cases h
  · cases h

theorem length_of_scanNumber? {negative : Bool} {t after : Text} {number : ScannedNumber}
    (h : scanNumber? negative t = some (number, after)) : after.length < t.length := by
  unfold scanNumber? at h
  rcases whole_eq : splitWhole t with ⟨whole, rest⟩
  rcases fraction_eq : splitFraction rest with ⟨fraction, rest'⟩
  have whole_length := length_of_splitWhole whole_eq
  have fraction_length := length_of_splitFraction fraction_eq
  rw [whole_eq] at h
  simp only [fraction_eq] at h
  split at h
  · cases h
  · rename_i nonempty
    have : 0 < whole.length := by
      cases whole with
      | nil => simp at nonempty
      | cons => simp
    split at h
    · rename_i exponent_eq
      have := length_of_splitExponent? exponent_eq
      cases h
      omega
    · split at h
      · split at h <;>
        · cases h
          omega
      · cases h
        omega

theorem length_of_scanSigned? {t after : Text} {number : ScannedNumber}
    (h : scanSigned? t = some (number, after)) : after.length < t.length := by
  unfold scanSigned? at h
  split at h
  · have := length_of_scanNumber? h
    simp
    omega
  · exact length_of_scanNumber? h

end TableDdl.Json
