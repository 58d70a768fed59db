import TableDdl.Mapping
import TableDdl.Platform.Dotenv

/-!
# Variables of settings

What is given for a setting: the value of a variable of the environment, or of a binding of the
environment file. The names of the variables begin with a stem, and capitals do not matter.
-/

namespace TableDdl.Variables

/-- The value that the last variable of a name gives. -/
def value? (scope : Dotenv.Variables) (stem : Text) (field : String) : Option Json :=
  let name := Text.toLower (stem ++ Text.ofString field)
  match scope.reverse.find? (fun entry => Text.toLower entry.1 = name) with
  | some (_, some value) => some (.text value)
  | _ => none

/-- What is given for a field by the environment, or by the environment file. -/
def given (environment : List (Text × Text)) (file : Dotenv.Variables) (stem : Text)
    (field : String) : Option Json :=
  let outer : Dotenv.Variables := environment.map fun (name, value) => (name, some value)
  (value? outer stem field).or (value? file stem field)

/-- The content of the environment file. There is none if the file is not there. -/
def readFile (fs : FileSystem) (path : Path) : Except PackageError Dotenv.Content :=
  match fs.read path with
  | .error _ => .ok ⟨[], []⟩
  | .ok bytes =>
    match Utf8.decode bytes with
    | .error malformed => .error (.value "UnicodeDecodeError" malformed.message)
    | .ok cs => .ok (Dotenv.read ((Mapping.unifyLineEndings cs).map .scalar))

/-- The variables of the environment that some fields may depend on, in the usual spelling: their
own, and those that the environment file refers to. -/
def names (fs : FileSystem) (stem : Text) (path : Path) (fields : List String) : List Text :=
  let own := fields.map fun field => (stem ++ Text.ofString field).map CodePoint.toUpper
  match readFile fs path with
  | .error _ => own
  | .ok content =>
    own ++ (content.bindings.filterMap Dotenv.Binding.value).flatMap Dotenv.referenceNames

/-- The warning about a line of the environment file that is no binding. -/
def warningLine (line : Nat) : Text :=
  "python-dotenv could not parse statement starting at line " ++ Text.ofNat line ++ "\n"

/-- What is given for each field, after the warnings about the environment file. -/
def load (environment : List (Text × Text)) (fs : FileSystem) (stem : Text) (path : Path) :
    Text × Except PackageError (String → Option Json) :=
  match readFile fs path with
  | .error error => ([], .error error)
  | .ok content =>
    (content.warnings.flatMap warningLine,
      .ok (given environment (Dotenv.resolve environment content.bindings) stem))

end TableDdl.Variables
