import TableDdl.Column.List
import TableDdl.Proofs.Text.Digits

/-!
# Column lists are unambiguous

A column list can be taken apart in one way only, whatever the names of the fields hold. What is
lost on the way to the list is told by a normal form: names become column names, and the two pairs
of primitive types that the dialect does not keep apart become one. The text of a type is the text
of its normal form, and it determines the normal form together with the place where the text ends.
-/

namespace TableDdl.Column

open Schema

/-! ## Normal forms -/

/-- The primitive type that stands for those with the same type in the dialect. -/
def normalKind : Primitive → Primitive
  | .number => .float
  | .long => .timestamp
  | kind => kind

mutual

/-- The normal form of a field type. -/
def normalType : FieldType → FieldType
  | .primitive kind => .primitive (normalKind kind)
  | .decimal precision scale => .decimal precision scale
  | .array item => .array (normalType item)
  | .map key value => .map (normalType key) (normalType value)
  | .record form fields => .record form (normalFields fields)

/-- The fields with their column names and with the normal forms of their types. -/
def normalFields : Fields → Fields
  | .last name type => .last (sanitize name) (normalType type)
  | .more name type others => .more (sanitize name) (normalType type) (normalFields others)

end

/-- The normal form of a record. -/
def normalRecord (record : Record) : Record :=
  ⟨record.form, normalFields record.fields⟩

/-! ## The text of a normal form -/

mutual

/-- The type of the dialect for a normal form. -/
def spelled : FieldType → Text
  | .primitive kind => primitiveType kind
  | .decimal precision scale =>
    "decimal(" ++ Text.ofInt precision ++ "," ++ Text.ofInt scale ++ ")"
  | .array item => "array<" ++ spelled item ++ ">"
  | .map key value => "map<" ++ spelled key ++ comma ++ spelled value ++ ">"
  | .record form fields => "struct<" ++ spelledFields form fields ++ ">"

/-- The fields of a normal form in the dialect, with their names as they stand. -/
def spelledFields (form : Form) : Fields → Text
  | .last name type => name ++ separator form ++ spelled type
  | .more name type others =>
    name ++ separator form ++ spelled type ++ comma ++ spelledFields form others

end

theorem primitiveType_normalKind (kind : Primitive) :
    primitiveType (normalKind kind) = primitiveType kind := by
  cases kind <;> rfl

mutual

/-- The text of a type is told by its normal form. -/
theorem spelled_normalType : (type : FieldType) → spelled (normalType type) = typeText type
  | .primitive kind => by rw [normalType, spelled, typeText, primitiveType_normalKind]
  | .decimal precision scale => by rw [normalType, spelled, typeText]
  | .array item => by rw [normalType, spelled, typeText, spelled_normalType item]
  | .map key value => by
    rw [normalType, spelled, typeText, spelled_normalType key, spelled_normalType value]
  | .record form fields => by
    rw [normalType, spelled, typeText, spelledFields_normalFields form fields]

theorem spelledFields_normalFields (form : Form) : (fields : Fields) →
    spelledFields form (normalFields fields) = fieldsText form fields
  | .last name type => by
    rw [normalFields, spelledFields, fieldsText, spelled_normalType type]
  | .more name type others => by
    rw [normalFields, spelledFields, fieldsText, spelled_normalType type,
      spelledFields_normalFields form others]

end

/-! ## How a type begins -/

/-- The ways in which the text of a type begins. -/
inductive Opening where
  | word (kind : Primitive)
  | decimal
  | array
  | map
  | record
  deriving DecidableEq

/-- The text that a type begins with. -/
def Opening.text : Opening → Text
  | .word kind => primitiveType kind
  | .decimal => "decimal("
  | .array => "array<"
  | .map => "map<"
  | .record => "struct<"

/-- The openings of normal forms. -/
def Opening.normal : List Opening :=
  [.word .string, .word .boolean, .word .integer, .word .float, .word .date, .word .datetime,
   .word .timestamp, .decimal, .array, .map, .record]

/-- The opening of a type. -/
def openingOf : FieldType → Opening
  | .primitive kind => .word (normalKind kind)
  | .decimal _ _ => .decimal
  | .array _ => .array
  | .map _ _ => .map
  | .record _ _ => .record

/-- What stands after the opening of a type. -/
def closingOf : FieldType → Text
  | .primitive _ => []
  | .decimal precision scale => Text.ofInt precision ++ "," ++ Text.ofInt scale ++ ")"
  | .array item => typeText item ++ ">"
  | .map key value => typeText key ++ comma ++ typeText value ++ ">"
  | .record form fields => fieldsText form fields ++ ">"

theorem typeText_eq_opening_append (type : FieldType) :
    typeText type = (openingOf type).text ++ closingOf type := by
  cases type with
  | primitive kind =>
    simp [typeText, openingOf, closingOf, Opening.text, primitiveType_normalKind]
  | decimal precision scale => simp [typeText, openingOf, closingOf, Opening.text]
  | array item => simp [typeText, openingOf, closingOf, Opening.text]
  | map key value => simp [typeText, openingOf, closingOf, Opening.text]
  | record form fields => simp [typeText, openingOf, closingOf, Opening.text]

theorem openingOf_mem_normal (type : FieldType) : openingOf type ∈ Opening.normal := by
  cases type with
  | primitive kind => cases kind <;> simp [openingOf, normalKind, Opening.normal]
  | decimal precision scale => simp [openingOf, Opening.normal]
  | array item => simp [openingOf, Opening.normal]
  | map key value => simp [openingOf, Opening.normal]
  | record form fields => simp [openingOf, Opening.normal]

/-- No opening begins with another one. -/
theorem Opening.eq_of_isPrefix : ∀ a ∈ Opening.normal, ∀ b ∈ Opening.normal,
    a.text <+: b.text → a = b := by
  decide

/-- The opening of a type is fixed by a text that begins with the type. -/
theorem openingOf_append_inj {t u : FieldType} {x y : Text}
    (eq : typeText t ++ x = typeText u ++ y) :
    openingOf t = openingOf u ∧ closingOf t ++ x = closingOf u ++ y := by
  rw [typeText_eq_opening_append t, typeText_eq_opening_append u, List.append_assoc,
    List.append_assoc] at eq
  have same : openingOf t = openingOf u := by
    have left : (openingOf t).text <+: (openingOf u).text ++ (closingOf u ++ y) := ⟨_, eq⟩
    have right := List.prefix_append (openingOf u).text (closingOf u ++ y)
    rcases List.prefix_or_prefix_of_prefix left right with shorter | longer
    · exact Opening.eq_of_isPrefix _ (openingOf_mem_normal t) _ (openingOf_mem_normal u) shorter
    · exact (Opening.eq_of_isPrefix _ (openingOf_mem_normal u) _ (openingOf_mem_normal t)
        longer).symm
  rw [same] at eq
  exact ⟨same, List.append_cancel_left eq⟩

/-! ## Where names and numbers end -/

/-- The code points that a column name is written with. -/
def isColumnPoint (p : CodePoint) : Bool :=
  p = .scalar '\x60' || isNamePoint p

theorem isColumnPoint_of_mem_sanitize {name : Text} {p : CodePoint} (mem : p ∈ sanitize name) :
    isColumnPoint p := by
  have kept : p ∈ name.filter isNamePoint ∨ p = .scalar '\x60' := by
    unfold sanitize at mem
    split at mem
    · simp only [List.mem_append, List.mem_cons, List.not_mem_nil, or_false] at mem
      rcases mem with (quote | kept) | quote
      · exact Or.inr quote
      · exact Or.inl kept
      · exact Or.inr quote
    · exact Or.inl mem
  rcases kept with kept | rfl
  · simp [isColumnPoint, (List.mem_filter.mp kept).2]
  · rfl

/-- The name of a field and the form of its record are fixed by a text that begins with them. -/
theorem name_append_inj {name name' : Text} {form form' : Form} {x y : Text}
    (eq : sanitize name ++ (separator form ++ x) = sanitize name' ++ (separator form' ++ y)) :
    sanitize name = sanitize name' ∧ form = form' ∧ x = y := by
  have inName : ∀ q ∈ sanitize name, isColumnPoint q := fun _ => isColumnPoint_of_mem_sanitize
  have inName' : ∀ q ∈ sanitize name', isColumnPoint q := fun _ => isColumnPoint_of_mem_sanitize
  cases form with
  | explicit =>
    cases form' with
    | explicit =>
      obtain ⟨same, -, rest⟩ := Text.append_cons_inj inName inName' (by decide) (by decide) eq
      exact ⟨same, rfl, List.append_cancel_left rest⟩
    | implicit =>
      obtain ⟨-, colon, -⟩ := Text.append_cons_inj inName inName' (by decide) (by decide) eq
      cases colon
  | implicit =>
    cases form' with
    | explicit =>
      obtain ⟨-, colon, -⟩ := Text.append_cons_inj inName inName' (by decide) (by decide) eq
      cases colon
    | implicit =>
      obtain ⟨same, -, rest⟩ := Text.append_cons_inj inName inName' (by decide) (by decide) eq
      exact ⟨same, rfl, rest⟩

/-- The parameters of a decimal type are fixed by a text that begins with them. -/
theorem parameters_append_inj {p p' s s' : Int} {x y : Text}
    (eq : Text.ofInt p ++ "," ++ Text.ofInt s ++ ")" ++ x
      = Text.ofInt p' ++ "," ++ Text.ofInt s' ++ ")" ++ y) :
    p = p' ∧ s = s' ∧ x = y := by
  simp only [List.append_assoc] at eq
  obtain ⟨precision, -, eq⟩ := Text.append_cons_inj
    (fun _ => Text.isSignOrDigit_of_mem_ofInt) (fun _ => Text.isSignOrDigit_of_mem_ofInt)
    (by decide) (by decide) eq
  obtain ⟨scale, -, rest⟩ := Text.append_cons_inj
    (fun _ => Text.isSignOrDigit_of_mem_ofInt) (fun _ => Text.isSignOrDigit_of_mem_ofInt)
    (by decide) (by decide) eq
  exact ⟨Text.ofInt_injective precision, Text.ofInt_injective scale, rest⟩

/-! ## Taking a type apart -/

mutual

/-- A text that begins with a type fixes the normal form of the type and the place where it
ends. -/
theorem typeText_append_inj : (t u : FieldType) → (x y : Text) →
    typeText t ++ x = typeText u ++ y → normalType t = normalType u ∧ x = y := by
  intro t u x y eq
  obtain ⟨same, eq⟩ := openingOf_append_inj eq
  match t, u with
  | .primitive kind, .primitive kind' =>
    exact ⟨by rw [normalType, normalType, Opening.word.inj same], eq⟩
  | .decimal precision scale, .decimal precision' scale' =>
    obtain ⟨rfl, rfl, rest⟩ := parameters_append_inj eq
    exact ⟨rfl, rest⟩
  | .array item, .array item' =>
    simp only [closingOf, List.append_assoc] at eq
    obtain ⟨items, rest⟩ := typeText_append_inj item item' _ _ eq
    exact ⟨by rw [normalType, normalType, items], List.append_cancel_left rest⟩
  | .map key value, .map key' value' =>
    simp only [closingOf, List.append_assoc] at eq
    obtain ⟨keys, eq⟩ := typeText_append_inj key key' _ _ eq
    obtain ⟨values, rest⟩ := typeText_append_inj value value' _ _ (List.append_cancel_left eq)
    exact ⟨by rw [normalType, normalType, keys, values], List.append_cancel_left rest⟩
  | .record form fields, .record form' fields' =>
    simp only [closingOf, List.append_assoc] at eq
    obtain ⟨forms, members, rest⟩ := fieldsText_append_inj form form' fields fields' _ _ eq
    exact ⟨by rw [normalType, normalType, forms, members], rest⟩

/-- Fields that end at the end of their record fix its form, their normal forms and the text
after the record. -/
theorem fieldsText_append_inj (form form' : Form) : (fields fields' : Fields) → (x y : Text) →
    fieldsText form fields ++ (">" ++ x) = fieldsText form' fields' ++ (">" ++ y) →
    form = form' ∧ normalFields fields = normalFields fields' ∧ x = y := by
  intro fields fields' x y eq
  match fields, fields' with
  | .last name type, .last name' type' =>
    simp only [fieldsText, List.append_assoc] at eq
    obtain ⟨names, forms, eq⟩ := name_append_inj eq
    obtain ⟨types, rest⟩ := typeText_append_inj type type' _ _ eq
    exact ⟨forms, by rw [normalFields, normalFields, names, types], List.append_cancel_left rest⟩
  | .last name type, .more name' type' others' =>
    simp only [fieldsText, List.append_assoc] at eq
    obtain ⟨names, forms, eq⟩ := name_append_inj eq
    obtain ⟨types, rest⟩ := typeText_append_inj type type' _ _ eq
    cases (List.cons.inj rest).1
  | .more name type others, .last name' type' =>
    simp only [fieldsText, List.append_assoc] at eq
    obtain ⟨names, forms, eq⟩ := name_append_inj eq
    obtain ⟨types, rest⟩ := typeText_append_inj type type' _ _ eq
    cases (List.cons.inj rest).1
  | .more name type others, .more name' type' others' =>
    simp only [fieldsText, List.append_assoc] at eq
    obtain ⟨names, forms, eq⟩ := name_append_inj eq
    obtain ⟨types, eq⟩ := typeText_append_inj type type' _ _ eq
    obtain ⟨-, rest, tail⟩ := fieldsText_append_inj form form' others others' _ _
      (List.append_cancel_left eq)
    exact ⟨forms, by rw [normalFields, normalFields, names, types, rest], tail⟩

end

/-! ## The list of columns -/

theorem join_columns (form : Form) (fields : Fields) :
    Text.join comma ((fields.toList.map fun (name, type) =>
      (⟨sanitize name, typeText type⟩ : Column)).map (Column.render (separator form)))
    = fieldsText form fields := by
  induction fields using Fields.rec (motive_1 := fun _ => True) with
  | last name type _ => simp [Fields.toList, Text.join, Column.render, fieldsText]
  | more name type others _ ih =>
    rw [fieldsText, ← ih, Fields.toList, List.map_cons, List.map_cons, Text.join,
      List.intercalate_cons_of_ne_nil (by simp [Fields.toList_ne_nil])]
    simp [Column.render, Text.join]
  | primitive | decimal | array | map | record => trivial

/-- The columns of a table are written as the fields of a record are. -/
theorem columnList_eq_fieldsText (record : Record) :
    record.columnList = fieldsText record.form record.fields :=
  join_columns record.form record.fields

theorem typeText_eq_iff (t u : FieldType) :
    typeText t = typeText u ↔ normalType t = normalType u := by
  constructor
  · intro eq
    exact (typeText_append_inj t u [] [] (by rw [eq])).1
  · intro eq
    rw [← spelled_normalType t, eq, spelled_normalType u]

theorem columnList_eq_iff (r s : Record) :
    r.columnList = s.columnList ↔ normalRecord r = normalRecord s := by
  rw [columnList_eq_fieldsText, columnList_eq_fieldsText, normalRecord, normalRecord,
    Record.mk.injEq]
  constructor
  · intro eq
    obtain ⟨forms, fields, -⟩ :=
      fieldsText_append_inj r.form s.form r.fields s.fields [] [] (by rw [eq])
    exact ⟨forms, fields⟩
  · intro eq
    rw [← spelledFields_normalFields, eq.1, eq.2, spelledFields_normalFields]

/-- Two types, and two records, are written alike exactly if they have the same normal form. -/
theorem written_alike_iff_normal_forms_eq :
    (∀ t u : FieldType, typeText t = typeText u ↔ normalType t = normalType u) ∧
      ∀ r s : Record, r.columnList = s.columnList ↔ normalRecord r = normalRecord s :=
  ⟨typeText_eq_iff, columnList_eq_iff⟩

end TableDdl.Column
