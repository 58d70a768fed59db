import TableDdl.Failure
import TableDdl.Schema.Overlay

/-!
# Table definitions

What a statement that creates a table is made from. A definition read from a JSON value is checked;
its fields may be changed afterwards.
-/

namespace TableDdl

/-- The definition of a table. Its columns are given, or compiled from a schema file with a mapping
as the overlay; given columns win. -/
structure TableDefinition where
  tableName : Text
  bucketName : Text
  bucketPrefix : Text
  columns : Option Text
  schemaFile : Option Path
  mapping : Option Schema.Overlay
  extraColumns : List Text
  partitionedBy : List Text
  tableProperties : List (Text × Text)
  deriving Repr

namespace TableDefinition

/-- The name of the model in reports. -/
def model : String := "TableDefinition"

/-- The table properties of a definition that gives none. -/
def defaultProperties : List (Text × Text) :=
  [("table_type", "ICEBERG"), ("format", "parquet"), ("write_compression", "snappy")]

/-- What a definition without columns and without a schema file is told. -/
def noSourceMessage : Text := "Either 'columns' or 'schema_file' must be provided"

/-- The checks of the fields, one after the other. -/
def ofMembers (ms : Json.Members) : Checked TableDefinition :=
  Checked.of TableDefinition.mk
    |>.ap (Check.required ms "table_name" Check.filledText)
    |>.ap (Check.required ms "bucket_name" Check.filledText)
    |>.ap (Check.field ms "bucket_prefix" (.ok []) Check.text)
    |>.ap (Check.field ms "columns" (.ok none) (Check.nullable Check.text))
    |>.ap (Check.field ms "schema_file" (.ok none) (Check.nullable Check.path))
    |>.ap (Check.field ms "mapping" (.ok none) (Check.nullable (Check.members Check.object)))
    |>.ap (Check.field ms "extra_columns" (.ok []) Check.texts)
    |>.ap (Check.field ms "partitioned_by" (.ok []) Check.texts)
    |>.ap (Check.field ms "table_properties" (.ok defaultProperties) (Check.members Check.text))

/-- Checks that the columns have a source. -/
def checkSource (input : Json) (definition : TableDefinition) : Checked TableDefinition :=
  if definition.columns.isNone && definition.schemaFile.isNone then
    .reject (.custom noSourceMessage) [] input
  else .ok definition

/-- The definition that a JSON value gives. Fields that are not known are passed over; the source of
the columns is checked only if all fields are in order. -/
def ofJson (input : Json) : Except ValidationReport TableDefinition :=
  let checked : Checked TableDefinition :=
    match input with
    | .object ms => ofMembers ms >>= checkSource input
    | _ => .reject (.notInstance model) [] input
  checked.mapError fun issues => ⟨model, issues⟩

/-- A new value for a field. -/
inductive Assignment where
  | tableName (value : Text)
  | bucketName (value : Text)
  | bucketPrefix (value : Text)
  | columns (value : Option Text)
  | schemaFile (value : Option Path)
  | mapping (value : Option Schema.Overlay)
  | extraColumns (value : List Text)
  | partitionedBy (value : List Text)
  | tableProperties (value : List (Text × Text))

/-- Gives a field a new value. What was checked when the definition was made is not checked again.
-/
def assign (definition : TableDefinition) : Assignment → TableDefinition
  | .tableName value => { definition with tableName := value }
  | .bucketName value => { definition with bucketName := value }
  | .bucketPrefix value => { definition with bucketPrefix := value }
  | .columns value => { definition with columns := value }
  | .schemaFile value => { definition with schemaFile := value }
  | .mapping value => { definition with mapping := value }
  | .extraColumns value => { definition with extraColumns := value }
  | .partitionedBy value => { definition with partitionedBy := value }
  | .tableProperties value => { definition with tableProperties := value }

/-- A text as it is; any other value as it is shown in messages. -/
def textValue : Json → Text
  | .text t => t
  | value => value.display

/-- The items of a list of texts; anything but a list counts as empty. -/
def textValues : Json → List Text
  | .array items => items.map textValue
  | _ => []

/-- The members of an object of texts; anything but an object counts as empty. -/
def textMembers : Json → List (Text × Text)
  | .object ms => ms.map fun (key, value) => (key, textValue value)
  | _ => []

/-- The value of a field that may be null. -/
def nullableValue {α : Type} (read : Json → α) : Json → Option α
  | .null => none
  | value => some (read value)

/-- How each field takes a new value from a JSON value. -/
def assignments : List (String × (Json → Assignment)) :=
  [("table_name", fun v => .tableName (textValue v)),
   ("bucket_name", fun v => .bucketName (textValue v)),
   ("bucket_prefix", fun v => .bucketPrefix (textValue v)),
   ("columns", fun v => .columns (nullableValue textValue v)),
   ("schema_file", fun v => .schemaFile (nullableValue (Path.ofText ∘ textValue) v)),
   ("mapping", fun v => .mapping v.members?),
   ("extra_columns", fun v => .extraColumns (textValues v)),
   ("partitioned_by", fun v => .partitionedBy (textValues v)),
   ("table_properties", fun v => .tableProperties (textMembers v))]

/-- Gives the field of a name a new value. -/
def set (definition : TableDefinition) (field : Text) (value : Json) :
    Except Failure TableDefinition :=
  match assignments.find? (fun entry => Text.ofString entry.1 = field) with
  | some (_, read) => .ok (definition.assign (read value))
  | none => .error (.unknownField model field)

end TableDefinition

end TableDdl
