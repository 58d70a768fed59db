import TableDdl.Schema.Keyword

/-!
# Field types

The types that a schema document describes. A record has at least one field; it is written either as
an explicit object or as an implicit grouping of its fields, and it keeps the form it was written
in.
-/

namespace TableDdl.Schema

/-- The two forms of a record: an explicit object, and an implicit grouping of fields. -/
inductive Form where
  | explicit
  | implicit
  deriving DecidableEq, Inhabited, Repr

mutual

/-- The type of a field. -/
inductive FieldType where
  | primitive (kind : Primitive)
  | decimal (precision scale : Int)
  | array (item : FieldType)
  | map (key value : FieldType)
  | record (form : Form) (fields : Fields)
  deriving DecidableEq, Repr

/-- The fields of a record: one or more names with their types, in order. -/
inductive Fields where
  | last (name : Text) (type : FieldType)
  | more (name : Text) (type : FieldType) (others : Fields)
  deriving DecidableEq, Repr

end

instance : Inhabited FieldType := ⟨.primitive default⟩
instance : Inhabited Fields := ⟨.last [] default⟩

namespace Fields

/-- The fields as a list of names with types. -/
def toList : Fields → List (Text × FieldType)
  | .last name type => [(name, type)]
  | .more name type others => (name, type) :: others.toList

/-- The fields that begin with one field and go on with a list. -/
def ofCons (name : Text) (type : FieldType) : List (Text × FieldType) → Fields
  | [] => .last name type
  | (name', type') :: rest => .more name type (ofCons name' type' rest)

/-- The fields of a list that is not empty. -/
def ofList? : List (Text × FieldType) → Option Fields
  | [] => none
  | (name, type) :: rest => some (ofCons name type rest)

/-- The names in order. -/
def names (fields : Fields) : List Text :=
  fields.toList.map Prod.fst

theorem toList_ofCons (name : Text) (type : FieldType) (rest : List (Text × FieldType)) :
    (ofCons name type rest).toList = (name, type) :: rest := by
  induction rest generalizing name type with
  | nil => rfl
  | cons field rest ih => simp [ofCons, toList, ih]

theorem toList_ne_nil (fields : Fields) : fields.toList ≠ [] := by
  cases fields <;> simp [toList]

end Fields

/-- A record: its form and its fields. This is what a whole document describes. -/
structure Record where
  form : Form
  fields : Fields
  deriving DecidableEq, Inhabited, Repr

/-- A record as the type of a field. -/
def Record.toType (r : Record) : FieldType :=
  .record r.form r.fields

end TableDdl.Schema
