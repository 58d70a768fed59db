import TableDdl.Failure
import TableDdl.Log.Level

/-!
# Settings

Where schema files are looked for and what is logged. A setting is given by a variable of the
environment, or by a line of the file `.env` in the working directory; without any of them it has
its usual value. What is given is checked like the fields of any other structure.
-/

namespace TableDdl

/-- The settings of a run. -/
structure Settings where
  schemaDirectory : Path
  logLevel : Text
  logFormat : Text
  deriving Repr

namespace Settings

/-- The name of the model in reports. -/
def model : String := "Config"

/-- What the names of all variables begin with; capitals do not matter. -/
def variableStem : Text := "ICEBERG_DDL_"

/-- The name of the environment file. -/
def environmentFile : Path := .ofText ".env"

/-- The fields by name. -/
def fields : List String := ["schema_dir", "log_level", "log_format"]

/-- The forms of log lines by name. -/
def logFormats : List String := ["console", "json"]

/-- The settings in which each field is what is given for it, or has its usual value. -/
def check (given : String → Option Json) : Checked Settings :=
  let field {α : Type} (name : String) (usual : α)
      (check : List LocationStep → Json → Checked α) : Checked α :=
    match given name with
    | some value => check [.name (Text.ofString name)] value
    | none => .ok usual
  Checked.of Settings.mk
    |>.ap (field "schema_dir" (.ofText "src/schemas") Check.path)
    |>.ap (field "log_level" "WARNING" Check.text)
    |>.ap (field "log_format" "console" (Check.choice logFormats))

/-- The settings of the values that are given for the fields. -/
def ofGiven (given : String → Option Json) : Except Failure Settings :=
  (check given).mapError fun issues => .invalid ⟨model, issues⟩

/-- The path of a schema file: as it is given if it leads somewhere or is absolute, and otherwise in
the schema directory. -/
def schemaPath (settings : Settings) (fs : FileSystem) (path : Path) : Except FileError Path := do
  if (← fs.pathExists path) || path.isAbsolute then pure path
  else pure (settings.schemaDirectory.within path)

/-- The settings of logging. -/
def logging (settings : Settings) : Except Failure Logging :=
  Logging.ofNames settings.logLevel settings.logFormat

/-- The settings on one line. -/
def display (settings : Settings) : Text :=
  "Config(schema_dir=" ++ settings.schemaDirectory.toText.quoted ++ ", log_level=" ++
    settings.logLevel.quoted ++ ", log_format=" ++ settings.logFormat.quoted ++ ")"

end Settings

end TableDdl
