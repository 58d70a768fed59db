import TableDdl.File.System
import TableDdl.Schema.Fault
import TableDdl.Validation

/-!
# Failures

Everything that can end a run, in one type, and the wording of it. The wording of a report about
faulty values and of an error that a package raises is theirs.
-/

namespace TableDdl

/-- An error that a package raises, with the name of its class: a value that does not fit, an error
of the operating system, or another one, which no command shows and which has no wording here. -/
inductive PackageError where
  | value (className : String) (message : Text)
  | system (className : String) (message : Text)
  | other (className : String)
  deriving Repr

namespace PackageError

/-- The name of the class of an error. -/
def className : PackageError → String
  | .value className _ => className
  | .system className _ => className
  | .other className => className

/-- The wording of an error; one that has none is known by its class. -/
def message : PackageError → Text
  | .value _ message => message
  | .system _ message => message
  | .other className => className

end PackageError

/-- Why a run fails: a faulty document or overlay, an integer with too many digits, a file that
cannot be read or written, a value that does not fit its field, a table with neither columns nor a
schema file, a text that an encoding does not take, a level of logging that is none or no name, a
field that a model does not have, or an error of a package. -/
inductive Failure where
  | schema (error : Schema.SchemaError)
  | longInteger (digits : Nat)
  | file (error : FileError)
  | invalid (report : ValidationReport)
  | noColumnSource
  | unencodable (complaint : Text)
  | unknownLevel (value : String)
  | unusableLevel (value : String)
  | unknownField (model : String) (name : Text)
  | package (error : PackageError)
  deriving Repr

/-- The wording of a failure, with a wording for reports about faulty values. -/
def Failure.message (explain : ValidationReport → Text) : Failure → Text
  | .schema error => error.message
  | .longInteger digits => Json.longIntegerMessage digits
  | .file error => error.message
  | .invalid report => explain report
  | .noColumnSource => "expected str, bytes or os.PathLike object, not NoneType"
  | .unencodable complaint => complaint
  | .unknownLevel value => "Unknown level: '" ++ value ++ "'"
  | .unusableLevel value => "Level not an integer or a valid string: " ++ value
  | .unknownField model name => "\"" ++ model ++ "\" object has no field \"" ++ name ++ "\""
  | .package error => error.message

end TableDdl
