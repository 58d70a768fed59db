import TableDdl.File.Path
import TableDdl.Failure

/-!
# Requests

What a command is asked for: a list of the columns of a schema file, a table of them, or the
statement that creates a table with them. `expects` says which failures a request is prepared for.
-/

namespace TableDdl

/-- The files that a command reads: the schema file, the mapping file, and the directory in which
schema files are looked for. -/
structure Source where
  schemaFile : Path
  mapping : Option Path
  schemaDirectory : Option Path
  deriving DecidableEq, Repr

/-- The particulars of a table. -/
structure TableRequest where
  name : Text
  bucket : Text
  bucketPrefix : Text
  partitions : List Text
  extraColumns : List Text
  deriving DecidableEq, Repr

/-- A request: the list of columns, a table of the columns, or the statement that creates a table.
The list and the statement may go to a file. -/
inductive Request where
  | columns (source : Source) (output : Option Path)
  | showSchema (source : Source)
  | createTable (source : Source) (table : TableRequest) (output : Option Path)
  deriving DecidableEq, Repr

/-- A file for what a request makes, and what it is called there. -/
structure Output where
  path : Path
  what : String
  deriving DecidableEq, Repr

namespace Request

/-- The files that a request reads. -/
def source : Request → Source
  | .columns source _ => source
  | .showSchema source => source
  | .createTable source _ _ => source

/-- The file for what a request makes. -/
def output? : Request → Option Output
  | .columns _ output => output.map (⟨·, "Column list"⟩)
  | .showSchema _ => none
  | .createTable _ _ output => output.map (⟨·, "CREATE TABLE statement"⟩)

/-- The failures that a request expects. Those of documents and of the operating system are expected
by all; the command that creates a table expects also values, numbers, names, texts and paths that
do not fit. -/
def expects : Request → Failure → Bool
  | _, .schema _ => true
  | _, .file (.onPath _ _) => true
  | _, .package (.system _ _) => true
  | .createTable _ _ _, .file _ => true
  | .createTable _ _ _, .longInteger _ => true
  | .createTable _ _ _, .invalid _ => true
  | .createTable _ _ _, .unencodable _ => true
  | .createTable _ _ _, .unknownLevel _ => true
  | .createTable _ _ _, .package (.value _ _) => true
  | _, _ => false

end Request

end TableDdl
