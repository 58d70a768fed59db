import TableDdl.Json.Number
import TableDdl.Proofs.Number.NumeralText

/-!
# The texts of numbers in JSON

A number in a JSON text is a numeral in a stricter form: there is no plus sign in front, at least
one digit before the point and no further zero in front of it, and at least one digit after a point.
Without a fraction and an exponent it is an integer. These texts are read to their ends, if what
follows does not go on with them (`scanSigned?_integer`, `scanSigned?_real`), and no others are read
(`text_of_scanSigned?`).
-/

namespace TableDdl.Json

open Numeral

/-! ## Grammar -/

/-- `IsMinus t negative`: the text `t` is a minus sign, or there is none. -/
inductive IsMinus : Text → Bool → Prop
  | absent : IsMinus [] false
  | minus : IsMinus [.scalar '-'] true

/-- The test for the digits before a point: a zero, or digits that do not start with one. -/
inductive IsWhole : Text → Prop
  | zero : IsWhole [.scalar '0']
  | digits {p : CodePoint} {rest : Text} : p ≠ .scalar '0' → (∀ q ∈ p :: rest, q.isDigit) →
    IsWhole (p :: rest)

/-- `IsIntegerText t negative digits`: the text `t` is an integer with a sign and digits. -/
def IsIntegerText (t : Text) (negative : Bool) (digits : Text) : Prop :=
  ∃ sign : Text, t = sign ++ digits ∧ IsMinus sign negative ∧ IsWhole digits

/-- `IsUnsignedReal t m`: the text `t` is a number without a sign that has a fraction or an
exponent, and its parts are those of `m`. -/
def IsUnsignedReal (t : Text) (m : Numeral) : Prop :=
  ∃ fraction exponent : Text, t = m.whole ++ (fraction ++ exponent) ∧ IsWhole m.whole ∧
    IsFraction fraction m.fraction ∧ (fraction ≠ [] → m.fraction ≠ []) ∧
    IsExponent exponent m.exponent ∧ ¬ (fraction = [] ∧ exponent = [])

/-- `IsRealText t m`: the text `t` is a number with a fraction or an exponent, and `m` are its
parts. -/
def IsRealText (t : Text) (m : Numeral) : Prop :=
  ∃ sign body : Text, t = sign ++ body ∧ IsMinus sign m.negative ∧ IsUnsignedReal body m

/-- The integer with a sign and digits. -/
def signedInt (negative : Bool) (digits : Text) : Int :=
  if negative then -Int.ofNat (Text.digitsValue digits) else Int.ofNat (Text.digitsValue digits)

/-- What an integer is read as. -/
def ScannedNumber.ofDigits (negative : Bool) (digits : Text) : ScannedNumber :=
  if maxIntegerDigits < digits.length then .long digits.length
  else .value (.int (signedInt negative digits))

/-- The test for a text that does not go on with a number that stands before it. -/
def EndsNumber (rest : Text) : Prop :=
  ∀ p ∈ rest.head?, p.isDigit = false ∧ p ≠ .scalar '.' ∧ p ≠ .scalar 'e' ∧ p ≠ .scalar 'E'

/-! ## Parts of numbers -/

variable {t rest digits : Text}

theorem IsWhole.front (whole : IsWhole digits) :
    ∃ p more, digits = p :: more ∧ p.isDigit ∧ ∀ q ∈ digits, q.isDigit := by
  cases whole with
  | zero => exact ⟨_, _, rfl, rfl, by decide⟩
  | @digits p more _ all => exact ⟨p, more, rfl, all p List.mem_cons_self, all⟩

/-- The digits before a point are those of their value. -/
theorem IsWhole.ofNat_eq (whole : IsWhole digits) :
    Text.ofNat (Text.digitsValue digits) = digits := by
  cases whole with
  | zero => rfl
  | digits noZero all =>
    refine Text.ofNat_digitsValue (List.cons_ne_nil _ _) (fun p mem => ?_) all
    cases mem
    exact noZero

theorem splitWhole_append (whole : IsWhole digits) (ends : EndsDigits rest) :
    splitWhole (digits ++ rest) = (digits, rest) := by
  cases whole with
  | zero => rfl
  | @digits p more noZero all =>
    rw [List.cons_append, splitWhole, ← List.cons_append]
    · exact splitDigits_append all ends
    · intro tail eq
      exact noZero (List.cons.inj eq).1

theorem eq_append_of_splitWhole (split : splitWhole t = (digits, rest)) (nonempty : digits ≠ []) :
    t = digits ++ rest ∧ IsWhole digits := by
  unfold splitWhole at split
  split at split
  · cases split
    exact ⟨rfl, .zero⟩
  · rename_i noZero
    obtain ⟨rfl, all⟩ := eq_append_of_splitDigits split
    obtain ⟨p, more, rfl⟩ := List.exists_cons_of_ne_nil nonempty
    refine ⟨rfl, .digits (fun eq => ?_) all⟩
    rw [eq] at noZero
    exact noZero (more ++ rest) rfl

theorem splitFraction_append {fraction : Text} (isFraction : IsFraction fraction digits)
    (given : fraction ≠ [] → digits ≠ []) (ends : EndsDigits rest)
    (noPoint : ∀ p ∈ rest.head?, p ≠ .scalar '.') :
    splitFraction (fraction ++ rest) = (digits, rest) := by
  cases isFraction with
  | absent =>
    rw [List.nil_append, splitFraction]
    intro tail eq
    exact noPoint _ (eq ▸ rfl) rfl
  | point all =>
    obtain ⟨p, more, rfl⟩ := List.exists_cons_of_ne_nil (given (List.cons_ne_nil _ _))
    rw [List.cons_append, splitFraction, splitDigits_append all ends]

theorem eq_append_of_splitFraction (split : splitFraction t = (digits, rest)) :
    ∃ fraction, t = fraction ++ rest ∧ IsFraction fraction digits ∧
      (fraction ≠ [] → digits ≠ []) := by
  unfold splitFraction at split
  split at split
  · split at split
    · cases split
      exact ⟨[], rfl, .absent, fun given => given⟩
    · rename_i nonempty
      obtain ⟨eq, all⟩ := eq_append_of_splitDigits split
      refine ⟨.scalar '.' :: digits, by rw [List.cons_append, ← eq], .point all, fun _ empty => ?_⟩
      rw [empty] at split
      exact nonempty rest split
  · cases split
    exact ⟨[], rfl, .absent, fun given => given⟩

/-! ## Numbers without a sign -/

variable {m : Numeral} {negative : Bool} {number : ScannedNumber}

/-- Digits are read as an integer, if what follows does not go on with them. -/
theorem scanNumber?_integer (negative : Bool) (whole : IsWhole digits) (ends : EndsNumber rest) :
    scanNumber? negative (digits ++ rest) = some (.ofDigits negative digits, rest) := by
  have cut := splitWhole_append whole fun p mem => (ends p mem).1
  have noFraction : splitFraction rest = ([], rest) :=
    splitFraction_append .absent (fun given => given) (fun p mem => (ends p mem).1)
      fun p mem => (ends p mem).2.1
  have noExponent := splitExponent?_of_noLetter fun p mem => (ends p mem).2.2
  obtain ⟨p, more, rfl, -⟩ := whole.front
  simp only [scanNumber?, cut, noFraction, noExponent, List.isEmpty_cons, List.isEmpty_nil,
    Bool.false_eq_true, if_true, if_false, ScannedNumber.ofDigits, signedInt]
  split <;> rfl

/-- An exponent ends the digits of a fraction, and so does the end of the number. -/
theorem head_of_exponent {exponent : Text} {n : Int} (isExponent : IsExponent exponent n)
    (ends : EndsNumber rest) :
    ∀ p ∈ (exponent ++ rest).head?, p.isDigit = false ∧ p ≠ .scalar '.' := by
  intro p mem
  cases exponent with
  | nil =>
    obtain ⟨noDigit, noPoint, -⟩ := ends p mem
    exact ⟨noDigit, noPoint⟩
  | cons q more =>
    cases mem
    rcases isExponent.head p rfl with rfl | rfl
    · exact ⟨rfl, nofun⟩
    · exact ⟨rfl, nofun⟩

/-- A number with a fraction or an exponent is rounded. -/
theorem scanNumber?_real {body : Text} (real : IsUnsignedReal body m) (ends : EndsNumber rest) :
    scanNumber? m.negative (body ++ rest) = some (.value (.real m.toBinary64), rest) := by
  obtain ⟨negative, whole, digits, n⟩ := m
  obtain ⟨fraction, exponent, rfl, isWhole, isFraction, given, isExponent, marked⟩ := real
  dsimp only at isWhole isFraction given isExponent ⊢
  have after := head_of_exponent isExponent ends
  have pointed := splitFraction_append isFraction given (fun p mem => (after p mem).1)
    fun p mem => (after p mem).2
  have cut : splitWhole (whole ++ (fraction ++ (exponent ++ rest))) =
      (whole, fraction ++ (exponent ++ rest)) := by
    refine splitWhole_append isWhole fun p mem => ?_
    cases fraction with
    | nil => exact (after p mem).1
    | cons q more => exact endsDigits_of_parts isFraction isExponent p mem
  obtain ⟨p, more, rfl, -⟩ := isWhole.front
  rw [List.append_assoc, List.append_assoc]
  by_cases bare : exponent = []
  · subst bare
    obtain ⟨q, others, rfl⟩ := List.exists_cons_of_ne_nil (given fun none => marked ⟨none, rfl⟩)
    have noExponent := splitExponent?_of_noLetter fun p mem => (ends p mem).2.2
    cases isExponent
    rw [List.nil_append] at cut pointed ⊢
    simp only [scanNumber?, cut, pointed, noExponent, List.isEmpty_cons, Bool.false_eq_true,
      if_false]
  · have power := splitExponent?_append isExponent bare fun p mem => (ends p mem).1
    simp only [scanNumber?, cut, pointed, power, List.isEmpty_cons, Bool.false_eq_true, if_false]

/-- What is read as a number is one. -/
theorem text_of_scanNumber? (found : scanNumber? negative t = some (number, rest)) :
    (∃ digits, t = digits ++ rest ∧ IsWhole digits ∧ number = .ofDigits negative digits) ∨
      ∃ m body, t = body ++ rest ∧ IsUnsignedReal body m ∧ m.negative = negative ∧
        number = .value (.real m.toBinary64) := by
  unfold scanNumber? at found
  rcases cut : splitWhole t with ⟨whole, tail⟩
  rcases pointed : splitFraction tail with ⟨digits, after⟩
  rw [cut] at found
  simp only [pointed] at found
  split at found
  · cases found
  rename_i nonempty
  obtain ⟨rfl, isWhole⟩ := eq_append_of_splitWhole cut fun none => nonempty (by rw [none]; rfl)
  obtain ⟨fraction, rfl, isFraction, given⟩ := eq_append_of_splitFraction pointed
  split at found
  · rename_i n behind power
    cases found
    obtain ⟨exponent, rfl, marked, isExponent⟩ := eq_append_of_splitExponent? power
    refine Or.inr ⟨⟨negative, whole, digits, n⟩, whole ++ (fraction ++ exponent), ?_, ?_, rfl, rfl⟩
    · rw [List.append_assoc, List.append_assoc]
    · exact ⟨fraction, exponent, rfl, isWhole, isFraction, given, isExponent,
        fun none => marked none.2⟩
  · cases digits with
    | nil =>
      have noFraction : fraction = [] := by
        cases fraction with
        | nil => rfl
        | cons p more => exact absurd rfl (given (List.cons_ne_nil _ _))
      subst noFraction
      refine Or.inl ⟨whole, ?_⟩
      rw [List.isEmpty_nil, if_pos rfl] at found
      unfold ScannedNumber.ofDigits signedInt
      split at found
      · rename_i long
        cases found
        exact ⟨rfl, isWhole, by rw [if_pos long]⟩
      · rename_i few
        cases found
        exact ⟨rfl, isWhole, by rw [if_neg few]⟩
    | cons q others =>
      cases found
      refine Or.inr ⟨⟨negative, whole, q :: others, 0⟩, whole ++ fraction, ?_, ?_, rfl, rfl⟩
      · rw [List.append_assoc]
      · refine ⟨fraction, [], by rw [List.append_nil], isWhole, isFraction, given, .absent, ?_⟩
        intro none
        rw [none.1] at isFraction
        cases isFraction

/-! ## Numbers with a sign -/

theorem scanSigned?_append {sign : Text} {p : CodePoint} (isSign : IsMinus sign negative)
    (digit : p.isDigit) (t : Text) :
    scanSigned? (sign ++ p :: t) = scanNumber? negative (p :: t) := by
  cases isSign with
  | minus => rfl
  | absent =>
    rw [List.nil_append, scanSigned?]
    intro rest eq
    rw [(List.cons.inj eq).1] at digit
    cases digit

/-- An integer is read as it stands, or refused because of its length. -/
theorem scanSigned?_integer (integer : IsIntegerText t negative digits) (ends : EndsNumber rest) :
    scanSigned? (t ++ rest) = some (.ofDigits negative digits, rest) := by
  obtain ⟨sign, rfl, isSign, whole⟩ := integer
  have scanned := scanNumber?_integer negative whole ends
  obtain ⟨p, more, rfl, digit, -⟩ := whole.front
  rw [List.cons_append] at scanned
  rw [List.append_assoc, List.cons_append, scanSigned?_append isSign digit, scanned]

/-- A number with a fraction or an exponent is read as the number that it is rounded to. -/
theorem scanSigned?_real (real : IsRealText t m) (ends : EndsNumber rest) :
    scanSigned? (t ++ rest) = some (.value (.real m.toBinary64), rest) := by
  obtain ⟨sign, body, rfl, isSign, unsigned⟩ := real
  have scanned := scanNumber?_real unsigned ends
  obtain ⟨fraction, exponent, rfl, whole, -⟩ := unsigned
  obtain ⟨p, more, eq, digit, -⟩ := whole.front
  rw [eq, List.cons_append, List.cons_append] at scanned
  rw [List.append_assoc, eq, List.cons_append, List.cons_append, scanSigned?_append isSign digit,
    scanned]

/-- What is read as a number is the text of one. -/
theorem text_of_scanSigned? (found : scanSigned? t = some (number, rest)) :
    ∃ front, t = front ++ rest ∧
      ((∃ negative digits, IsIntegerText front negative digits ∧
          number = .ofDigits negative digits) ∨
        ∃ m, IsRealText front m ∧ number = .value (.real m.toBinary64)) := by
  obtain ⟨sign, body, negative, rfl, isSign, scanned⟩ : ∃ sign body negative, t = sign ++ body ∧
      IsMinus sign negative ∧ scanNumber? negative body = some (number, rest) := by
    unfold scanSigned? at found
    split at found
    · exact ⟨_, _, true, rfl, .minus, found⟩
    · exact ⟨_, _, false, rfl, .absent, found⟩
  rcases text_of_scanNumber? scanned with
    ⟨digits, rfl, whole, rfl⟩ | ⟨m, body, rfl, unsigned, rfl, rfl⟩
  · exact ⟨sign ++ digits, (List.append_assoc ..).symm,
      Or.inl ⟨negative, digits, ⟨sign, rfl, isSign, whole⟩, rfl⟩⟩
  · exact ⟨sign ++ body, (List.append_assoc ..).symm,
      Or.inr ⟨m, ⟨sign, body, rfl, isSign, unsigned⟩, rfl⟩⟩

end TableDdl.Json
