import TableDdl.Column.Name
import TableDdl.Schema.FieldType

/-!
# Column lists

The types of the dialect, and the list of columns that a document compiles to. The members of an
explicit object are written `name: type` and those of a grouping `name type`, for a record inside a
type as for the columns of a table.
-/

namespace TableDdl.Column

open Schema

/-- The type that the dialect has for a primitive type. -/
def primitiveType : Primitive → String
  | .string => "string"
  | .boolean => "boolean"
  | .integer => "int"
  | .number => "float"
  | .float => "float"
  | .date => "date"
  | .datetime => "timestamp"
  | .timestamp => "bigint"
  | .long => "bigint"

/-- What stands between the name and the type of a field. -/
def separator : Form → Text
  | .explicit => ": "
  | .implicit => " "

/-- What stands between two columns or fields. -/
def comma : Text := ", "

mutual

/-- The type of the dialect for a field type. -/
def typeText : FieldType → Text
  | .primitive kind => primitiveType kind
  | .decimal precision scale =>
    "decimal(" ++ Text.ofInt precision ++ "," ++ Text.ofInt scale ++ ")"
  | .array item => "array<" ++ typeText item ++ ">"
  | .map key value => "map<" ++ typeText key ++ comma ++ typeText value ++ ">"
  | .record form fields => "struct<" ++ fieldsText form fields ++ ">"

/-- The fields of a record in the dialect. -/
def fieldsText (form : Form) : Fields → Text
  | .last name type => sanitize name ++ separator form ++ typeText type
  | .more name type others =>
    sanitize name ++ separator form ++ typeText type ++ comma ++ fieldsText form others

end

end TableDdl.Column

namespace TableDdl

/-- A column: its name and its type in the dialect. -/
structure Column where
  name : Text
  type : Text
  deriving DecidableEq, Repr

/-- A column with a separator between its name and its type. -/
def Column.render (separator : Text) (column : Column) : Text :=
  column.name ++ separator ++ column.type

namespace Schema.Record

/-- The columns of a table, one for each field. -/
def columns (record : Record) : List Column :=
  record.fields.toList.map fun (name, type) => ⟨Column.sanitize name, Column.typeText type⟩

/-- The columns of a table as they stand in its definition. -/
def columnList (record : Record) : Text :=
  Text.join Column.comma (record.columns.map (Column.render (Column.separator record.form)))

end Schema.Record

end TableDdl
