import TableDdl.Command.Request
import TableDdl.File.Name

/-!
# Command lines

What a command line asks for. There are three commands, each with a schema file and with options,
which may stand anywhere after the command; what starts with a hyphen is an option, until two
hyphens end the options. A command line that is not understood gives no request.
-/

namespace TableDdl

/-- The options of the commands. -/
inductive OptionName where
  | mapping
  | output
  | schemaDirectory
  | bucket
  | bucketPrefix
  | partition
  | extraColumn
  deriving DecidableEq, Repr

namespace OptionName

/-- The long spelling of an option. -/
def long : OptionName → Text
  | .mapping => "--mapping"
  | .output => "--output"
  | .schemaDirectory => "--schema-dir"
  | .bucket => "--bucket"
  | .bucketPrefix => "--bucket-prefix"
  | .partition => "--partition"
  | .extraColumn => "--extra-column"

/-- The letter of an option that has one. -/
def letter? : OptionName → Option Char
  | .mapping => some 'm'
  | .output => some 'o'
  | .bucket => some 'b'
  | .partition => some 'p'
  | .extraColumn => some 'e'
  | _ => none

end OptionName

/-- What an argument is: plain, the end of the options, or an option, perhaps with its value. -/
inductive Argument where
  | plain
  | endOfOptions
  | option (name : OptionName) (value : Option Text)
  | unknownOption
  deriving DecidableEq, Repr

namespace Argument

/-- A long option: its name alone, or with an equals sign and its value. -/
def long? (known : List OptionName) (argument : Text) : Option Argument :=
  let spelling := argument.takeWhile fun p => p ≠ .scalar '='
  (known.find? (·.long = spelling)).map fun name =>
    match argument.drop spelling.length with
    | [] => .option name none
    | _ :: value => .option name (some value)

/-- An option by its letter, perhaps with its value. -/
def short? (known : List OptionName) : Text → Option Argument
  | .scalar '-' :: .scalar c :: rest =>
    (known.find? (·.letter? = some c)).map fun name =>
      .option name (if rest.isEmpty then none else some rest)
  | _ => none

/-- What an argument is for a command that knows some options. -/
def read (known : List OptionName) (argument : Text) : Argument :=
  match argument with
  | [.scalar '-', .scalar '-'] => .endOfOptions
  | .scalar '-' :: second :: _ =>
    match long? known argument with
    | some found => found
    | none =>
      if second = .scalar '-' then .unknownOption
      else (short? known argument).getD .unknownOption
  | _ => .plain

end Argument

/-- The arguments of a command: the plain ones, and the options with their values, in order. -/
structure Arguments where
  plain : List Text
  options : List (OptionName × Text)
  deriving DecidableEq, Repr

namespace Arguments

/-- Adds a plain argument in front. -/
def addPlain (argument : Text) (a : Arguments) : Arguments :=
  { a with plain := argument :: a.plain }

/-- Adds an option in front. -/
def addOption (name : OptionName) (value : Text) (a : Arguments) : Arguments :=
  { a with options := (name, value) :: a.options }

/-- Reads the arguments of a command that knows some options. An option that has no value of its own
takes the next argument, whatever it is. -/
def read (known : List OptionName) : List Text → Option Arguments
  | [] => some ⟨[], []⟩
  | argument :: rest =>
    match Argument.read known argument with
    | .plain => (read known rest).map (addPlain argument)
    | .endOfOptions => some ⟨rest, []⟩
    | .option name (some value) => (read known rest).map (addOption name value)
    | .option name none =>
      match rest with
      | [] => none
      | value :: rest => (read known rest).map (addOption name value)
    | .unknownOption => none

/-- All values of an option. -/
def all (a : Arguments) (name : OptionName) : List Text :=
  a.options.filterMap fun (known, value) => if known = name then some value else none

/-- The value of an option; of several the last one counts. -/
def last? (a : Arguments) (name : OptionName) : Option Text :=
  (a.all name).getLast?

/-- The path that an argument spells, if the operating system can be asked about it. -/
def pathOf? (argument : Text) : Option Path :=
  let path := Path.ofText argument
  if path.isAskable then some path else none

/-- The path that an option gives, which has to be one; without the option there is none. -/
def path? (a : Arguments) (name : OptionName) : Option (Option Path) :=
  match a.last? name with
  | some argument => (pathOf? argument).map some
  | none => some none

end Arguments

namespace Request

/-- The files that the arguments of a command give. -/
def sourceOf? (schemaFile : Text) (a : Arguments) : Option Source := do
  let schemaFile ← Arguments.pathOf? schemaFile
  let mapping ← a.path? .mapping
  let schemaDirectory ← a.path? .schemaDirectory
  pure ⟨schemaFile, mapping, schemaDirectory⟩

/-- Reads the arguments of the command that lists the columns. -/
def columnsOf? (arguments : List Text) : Option Request := do
  let a ← Arguments.read [.mapping, .output, .schemaDirectory] arguments
  match a.plain with
  | [schemaFile] => pure (.columns (← sourceOf? schemaFile a) (← a.path? .output))
  | _ => none

/-- Reads the arguments of the command that shows the columns. -/
def showSchemaOf? (arguments : List Text) : Option Request := do
  let a ← Arguments.read [.mapping, .schemaDirectory] arguments
  match a.plain with
  | [schemaFile] => pure (.showSchema (← sourceOf? schemaFile a))
  | _ => none

/-- Reads the arguments of the command that creates a table. The bucket has to be given. -/
def createTableOf? (arguments : List Text) : Option Request := do
  let a ← Arguments.read
    [.bucket, .bucketPrefix, .partition, .extraColumn, .mapping, .output, .schemaDirectory]
    arguments
  match a.plain, a.last? .bucket with
  | [name, schemaFile], some bucket =>
    let table : TableRequest :=
      { name := name
        bucket := bucket
        bucketPrefix := (a.last? .bucketPrefix).getD []
        partitions := a.all .partition
        extraColumns := a.all .extraColumn }
    pure (.createTable (← sourceOf? schemaFile a) table (← a.path? .output))
  | _, _ => none

/-- The commands by name. -/
def commands : List (String × (List Text → Option Request)) :=
  [("columns", columnsOf?), ("show-schema", showSchemaOf?), ("create-table", createTableOf?)]

/-- The forms of a command line, one for each command. -/
def usage : List String :=
  ["columns SCHEMA_FILE [--mapping FILE] [--output FILE] [--schema-dir DIRECTORY]",
   "show-schema SCHEMA_FILE [--mapping FILE] [--schema-dir DIRECTORY]",
   "create-table TABLE_NAME SCHEMA_FILE --bucket BUCKET [--bucket-prefix PREFIX] " ++
     "[--partition EXPRESSION]... [--extra-column COLUMN]... " ++
     "[--mapping FILE] [--output FILE] [--schema-dir DIRECTORY]"]

/-- Reads a command and its arguments. -/
def ofCommand? : List Text → Option Request
  | [] => none
  | name :: arguments =>
    match commands.find? (fun command => Text.ofString command.1 = name) with
    | some (_, read) => read arguments
    | none => none

/-- Reads a command line. Two hyphens may stand in front of the command. -/
def ofArguments? (arguments : List Text) : Option Request :=
  match arguments with
  | [.scalar '-', .scalar '-'] :: rest => ofCommand? rest
  | arguments => ofCommand? arguments

end Request

/-- The status of a run whose command line is not understood. -/
def usageStatus : Nat := 2

end TableDdl
