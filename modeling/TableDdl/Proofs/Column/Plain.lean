import TableDdl.Proofs.Column.Unambiguous
import TableDdl.Proofs.Text.Printed

/-!
# Columns are written in plain characters

Whatever the names in a document are, a list of columns is written in the visible characters of
ASCII and spaces. It can therefore be encoded, and it is printed as it is.
-/

namespace TableDdl

/-- The test for a visible ASCII character or a space. -/
def CodePoint.IsPlain (p : CodePoint) : Prop :=
  0x20 ≤ p.value ∧ p.value < 0x7F

instance (p : CodePoint) : Decidable p.IsPlain :=
  inferInstanceAs (Decidable (_ ∧ _))

/-- The test for a text of plain characters. -/
def Text.IsPlain (t : Text) : Prop :=
  ∀ p ∈ t, p.IsPlain

instance (t : Text) : Decidable t.IsPlain :=
  inferInstanceAs (Decidable (∀ p ∈ t, p.IsPlain))

namespace Text.IsPlain

variable {t u : Text}

theorem append (first : t.IsPlain) (second : u.IsPlain) : Text.IsPlain (t ++ u) :=
  List.forall_mem_append.mpr ⟨first, second⟩

theorem isScalar (plain : t.IsPlain) : Json.IsScalar t := by
  intro p mem
  cases p with
  | scalar c => rfl
  | surrogate offset =>
    have low := (plain _ mem).2
    simp only [CodePoint.value, CodePoint.surrogateBase] at low
    omega

theorem escape_notMem (plain : t.IsPlain) : escape ∉ t :=
  fun mem => absurd (plain escape mem) (by decide)

end Text.IsPlain

namespace Column

open Schema

theorem isPlain_of_isAlphanum {c : Char} (alphanum : c.isAlphanum) :
    (CodePoint.scalar c).IsPlain := by
  have ranges : ((decide ('A'.val ≤ c.val ∧ c.val ≤ 'Z'.val) ||
      ('a'.val ≤ c.val && c.val ≤ 'z'.val)) || ('0'.val ≤ c.val && c.val ≤ '9'.val)) = true :=
    alphanum
  have ends : 'A'.val.toNat = 0x41 ∧ 'Z'.val.toNat = 0x5A ∧ 'a'.val.toNat = 0x61 ∧
      'z'.val.toNat = 0x7A ∧ '0'.val.toNat = 0x30 ∧ '9'.val.toNat = 0x39 :=
    ⟨rfl, rfl, rfl, rfl, rfl, rfl⟩
  simp only [Bool.or_eq_true, Bool.and_eq_true, decide_eq_true_eq, UInt32.le_iff_toNat_le]
    at ranges
  show 0x20 ≤ c.val.toNat ∧ c.val.toNat < 0x7F
  omega

theorem isPlain_sanitize (name : Text) : (sanitize name).IsPlain := by
  intro p mem
  have point := isColumnPoint_of_mem_sanitize mem
  simp only [isColumnPoint, Bool.or_eq_true, decide_eq_true_eq] at point
  rcases point with rfl | point
  · decide
  · cases p with
    | surrogate offset => cases point
    | scalar c =>
      simp only [isNamePoint, Bool.or_eq_true, decide_eq_true_eq] at point
      rcases point with (alphanum | rfl) | rfl
      · exact isPlain_of_isAlphanum alphanum
      · decide
      · decide

theorem isPlain_ofInt (i : Int) : (Text.ofInt i).IsPlain := by
  intro p mem
  have point := Text.isSignOrDigit_of_mem_ofInt mem
  simp only [Text.isSignOrDigit, Bool.or_eq_true, decide_eq_true_eq] at point
  rcases point with rfl | digit
  · decide
  · cases p with
    | surrogate offset => cases digit
    | scalar c =>
      refine isPlain_of_isAlphanum ?_
      rw [Char.isAlphanum, show c.isDigit = true from digit, Bool.or_true]

theorem isPlain_primitiveType (kind : Primitive) :
    (Text.ofString (primitiveType kind)).IsPlain := by
  cases kind <;> decide

theorem isPlain_separator (form : Form) : (separator form).IsPlain := by
  cases form <;> decide

mutual

theorem isPlain_typeText : (type : FieldType) → (typeText type).IsPlain := by
  intro type
  match type with
  | .primitive kind => exact isPlain_primitiveType kind
  | .decimal precision scale =>
    have opening : Text.IsPlain "decimal(" := by decide
    exact (((opening.append (isPlain_ofInt precision)).append (by decide)).append
      (isPlain_ofInt scale)).append (by decide)
  | .array item =>
    have opening : Text.IsPlain "array<" := by decide
    exact (opening.append (isPlain_typeText item)).append (by decide)
  | .map key value =>
    have opening : Text.IsPlain "map<" := by decide
    exact (((opening.append (isPlain_typeText key)).append (by decide)).append
      (isPlain_typeText value)).append (by decide)
  | .record form fields =>
    have opening : Text.IsPlain "struct<" := by decide
    exact (opening.append (isPlain_fieldsText form fields)).append (by decide)

theorem isPlain_fieldsText (form : Form) :
    (fields : Fields) → (fieldsText form fields).IsPlain := by
  intro fields
  match fields with
  | .last name type =>
    exact ((isPlain_sanitize name).append (isPlain_separator form)).append (isPlain_typeText type)
  | .more name type others =>
    exact ((((isPlain_sanitize name).append (isPlain_separator form)).append
      (isPlain_typeText type)).append (by decide)).append (isPlain_fieldsText form others)

end

/-- A list of columns is written in plain characters. -/
theorem isPlain_columnList (record : Record) : record.columnList.IsPlain := by
  rw [columnList_eq_fieldsText]
  exact isPlain_fieldsText record.form record.fields

end Column

end TableDdl
