import TableDdl.Compile
import TableDdl.Table.Definition

/-!
# Statements that create tables

The statement of a table definition and its clauses. A statement stands on one line.
-/

namespace TableDdl.TableDefinition

/-- Where the data of a table lies. -/
def location (definition : TableDefinition) : Text :=
  "s3://" ++ definition.bucketName ++ "/" ++ definition.bucketPrefix ++ definition.tableName

/-- The columns of a table as they are given or compiled. -/
def ownColumns (fs : FileSystem) (definition : TableDefinition) : Traced Failure Text :=
  match definition.columns, definition.schemaFile with
  | some columns, _ => pure columns
  | none, some path => compileFile fs definition.mapping path
  | none, none => .fail .noColumnSource

/-- The columns of a table and its extra columns after them. -/
def columnList (fs : FileSystem) (definition : TableDefinition) : Traced Failure Text := do
  let columns ← definition.ownColumns fs
  if definition.extraColumns.isEmpty then pure columns
  else pure (columns ++ ", " ++ Text.join ", " definition.extraColumns)

/-- The clause with the partitions of a table; it is empty if there are none. -/
def partitionClause (definition : TableDefinition) : Text :=
  if definition.partitionedBy.isEmpty then []
  else "PARTITIONED BY (" ++ Text.join ", " definition.partitionedBy ++ ") "

/-- The properties of a table, keys and values in quotation marks. -/
def propertyList (definition : TableDefinition) : Text :=
  Text.join ", "
    (definition.tableProperties.map fun (key, value) => "'" ++ key ++ "'='" ++ value ++ "'")

/-- The statement that creates a table. -/
def statement (fs : FileSystem) (definition : TableDefinition) : Traced Failure Text := do
  let columns ← definition.columnList fs
  pure ("CREATE TABLE IF NOT EXISTS " ++ definition.tableName ++ " (" ++ columns ++ ") " ++
    definition.partitionClause ++ "LOCATION '" ++ definition.location ++ "' TBLPROPERTIES (" ++
    definition.propertyList ++ ")")

end TableDdl.TableDefinition
