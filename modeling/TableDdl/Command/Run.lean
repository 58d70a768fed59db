import TableDdl.Command.Request
import TableDdl.Command.Toolkit
import TableDdl.Mapping
import TableDdl.Settings.Basic
import TableDdl.Table.Statement

/-!
# Running requests

`Request.run` carries out a request in some surroundings, with the packages that the commands are
built on. The result says what reaches the two streams, how the files are left, and whether the run
failed. Failures that a request expects are reported in one line; any other failure breaks the run
off.
-/

namespace TableDdl

/-- How a run ends. A failure that was not expected is kept; what is told about it is not part of
what the program writes. -/
structure Outcome where
  status : Nat
  stdout : List UInt8
  stderr : List UInt8
  files : FileSystem
  unexpected : Option Failure

/-- Loads the settings, after some warnings. -/
def Toolkit.settings (kit : Toolkit) (s : Surroundings) : Text × Except Failure Settings :=
  let (warnings, given) := kit.given s Settings.variableStem Settings.environmentFile
  (warnings, given.mapError Failure.package >>= Settings.ofGiven)

namespace Request

/-! ## What is made -/

/-- What a request makes: a text, or a table. -/
inductive Product where
  | text (t : Text)
  | sheet (sheet : Sheet)

/-- The settings of a request: those of the surroundings, with its own schema directory. -/
def settings (request : Request) (settings : Settings) : Settings :=
  match request.source.schemaDirectory with
  | some directory => { settings with schemaDirectory := directory }
  | none => settings

/-- The column list of a schema file. -/
def columnList (fs : FileSystem) (source : Source) (path : Path) : Traced Failure Text := do
  .emit (.compiling path.toText)
  let overlay ← .ofExcept (Mapping.load fs source.mapping)
  let bytes ← .ofExcept ((fs.read path).mapError Failure.file)
  (Document.bytes bytes).compile overlay

/-- The table that displays some columns of a schema file. -/
def sheetOf (path : Path) (columns : List Column) : Sheet where
  title := "Columns: " ++ path.name
  left := ⟨"Column Name", "cyan", true⟩
  right := ⟨"Data Type", "magenta", false⟩
  rows := columns.map fun column => (column.name, column.type)

/-- The table of the columns of a schema file. -/
def columnSheet (fs : FileSystem) (source : Source) (path : Path) : Traced Failure Sheet := do
  let overlay ← .ofExcept (Mapping.load fs source.mapping)
  let bytes ← .ofExcept ((fs.read path).mapError Failure.file)
  let columns ← (Document.bytes bytes).columns overlay
  pure (sheetOf path columns)

/-- The definition of a requested table, as it is checked. -/
def definitionOf (table : TableRequest) (path : Path) (overlay : Option Schema.Overlay) : Json :=
  .object
    [("table_name", .text table.name),
     ("bucket_name", .text table.bucket),
     ("bucket_prefix", .text table.bucketPrefix),
     ("schema_file", .text path.toText),
     ("mapping", (overlay.map Json.object).getD .null),
     ("partitioned_by", .array (table.partitions.map Json.text)),
     ("extra_columns", .array (table.extraColumns.map Json.text))]

/-- The statement that creates a table with the columns of a schema file. -/
def tableStatement (fs : FileSystem) (source : Source) (table : TableRequest) (path : Path) :
    Traced Failure Text := do
  let overlay ← .ofExcept (Mapping.load fs source.mapping)
  let definition ← .ofExcept
    ((TableDefinition.ofJson (definitionOf table path overlay)).mapError Failure.invalid)
  .emit (.rendering table.name)
  definition.statement fs

/-- What a request makes of the schema file at a path. -/
def produce (request : Request) (fs : FileSystem) (path : Path) : Traced Failure Product :=
  match request with
  | .columns source _ => do return .text (← columnList fs source path)
  | .showSchema source => do return .sheet (← columnSheet fs source path)
  | .createTable source table _ => do return .text (← tableStatement fs source table path)

/-- What a request makes, once its schema file is found. -/
def product (request : Request) (fs : FileSystem) (settings : Settings) :
    Traced Failure Product := do
  let path ← .ofExcept ((settings.schemaPath fs request.source.schemaFile).mapError Failure.file)
  request.produce fs path

/-! ## Where it goes -/

variable (kit : Toolkit) (s : Surroundings)

/-- What reaches standard output, and how the files are left. -/
structure Delivery where
  files : FileSystem
  printed : Except Failure (List UInt8)

/-- Prints a text and a line feed. -/
def print (t : Text) : Delivery :=
  ⟨s.files, ((kit.echoEncoding s).encode (kit.echo s t.line)).mapError Failure.unencodable⟩

/-- The marked-up text that tells that a file was written. -/
def savedText (output : Output) : Text :=
  "[green]✓[/green] " ++ output.what ++ " written to " ++ output.path.toText

/-- Writes a text and a line feed to a file and tells so. The file is opened before the text is
encoded, and it is written before anything is told. -/
def save (output : Output) (t : Text) : Delivery :=
  match s.files.write output.path [] with
  | .error e => ⟨s.files, .error (.file e)⟩
  | .ok opened =>
    match s.textFiles.encode t.line with
    | .error complaint => ⟨opened, .error (.unencodable complaint)⟩
    | .ok bytes =>
      match s.files.write output.path bytes with
      | .error e => ⟨s.files, .error (.file e)⟩
      | .ok written => ⟨written, (kit.display s (savedText output)).mapError Failure.package⟩

/-- Brings what a request has made to its place. -/
def deliver (request : Request) : Product → Delivery
  | .sheet sheet => ⟨s.files, (kit.displaySheet s sheet).mapError Failure.package⟩
  | .text t =>
    match request.output? with
    | some output => save kit s output t
    | none => print kit s t

/-! ## The run -/

/-- The marked-up line that reports a failure. -/
def errorText (failure : Failure) : Text :=
  "[red]Error:[/red] " ++ kit.escape (failure.message kit.explain)

/-- The end of a run that failed after some lines were logged. -/
def failed (request : Request) (files : FileSystem) (logged : Text) (failure : Failure) : Outcome :=
  if request.expects failure then
    match kit.report s (errorText kit failure) with
    | .ok line => ⟨1, [], s.stderr (logged ++ line), files, none⟩
    | .error error => ⟨1, [], s.stderr logged, files, some (.package error)⟩
  else ⟨1, [], s.stderr logged, files, some failure⟩

/-- Carries out a request with some settings, after some warnings. -/
def runWith (request : Request) (warnings : Text) (settings : Settings) : Outcome :=
  match settings.logging with
  | .error failure => request.failed kit s s.files warnings failure
  | .ok logging =>
    let made := request.product s.files settings
    let logged := warnings ++ logging.write (kit.logLine s) made.events
    match made.outcome with
    | .error failure => request.failed kit s s.files logged failure
    | .ok product =>
      let delivery := request.deliver kit s product
      match delivery.printed with
      | .error failure => request.failed kit s delivery.files logged failure
      | .ok printed => ⟨0, printed, s.stderr logged, delivery.files, none⟩

/-- Carries out a request. -/
def run (request : Request) : Outcome :=
  let (warnings, loaded) := kit.settings s
  match loaded with
  | .error failure => request.failed kit s s.files warnings failure
  | .ok settings => request.runWith kit s warnings (request.settings settings)

/-- The paths that a request may follow. -/
def paths (request : Request) (settings : Settings) : List Path :=
  let source := request.source
  [source.schemaFile, settings.schemaDirectory.within source.schemaFile] ++
    source.mapping.toList ++ (request.output?.map Output.path).toList

end Request

end TableDdl
