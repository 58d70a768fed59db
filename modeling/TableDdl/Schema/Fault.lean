import TableDdl.Json.Reader
import TableDdl.Json.Writer
import TableDdl.Schema.Keyword
import TableDdl.Text.Utf8

/-!
# Faults of schema documents

What can be wrong with a schema document or an overlay, where it is, and how it is reported. The
class of a fault is that of the error that reports it.
-/

namespace TableDdl.Schema

/-- The types that take a `properties` object. -/
inductive Composite where
  | decimal
  | map
  | object
  deriving DecidableEq, Repr

/-- The parameters of a decimal type. -/
inductive Parameter where
  | precision
  | scale
  deriving DecidableEq, Repr

/-- The parts of a map type. -/
inductive MapPart where
  | key
  | value
  deriving DecidableEq, Repr

/-- Why bytes or a text hold no JSON value. -/
inductive Unreadable where
  | bytes (malformed : Utf8.Malformed)
  | text (complaint : Json.PlacedComplaint)
  deriving DecidableEq, Repr

/-- What is wrong with a document or an overlay. -/
inductive Fault where
  | documentUnreadable (cause : Unreadable)
  | mappingUnreadable (file : Text) (cause : Unreadable)
  | rootNotObject (value : Json)
  | rootKeyword (keyword : Keyword)
  | nullType
  | unknownWord (word : Text)
  | unknownValue (value : Json)
  | notObject (value : Json)
  | groupingProperties
  | groupingEmpty
  | properties (of : Composite)
  | missingParameter (parameter : Parameter)
  | missingMapPart (part : MapPart)
  | missingItems
  | parameterNotNumber (parameter : Parameter) (value : Json)
  | parameterNotInteger (parameter : Parameter) (value : Json)
  | overlayNotObject
  | overlayEntry
  | overlayDefinition
  deriving Repr

/-- The classes of faults. -/
inductive FaultClass where
  | schema
  | unsupportedType
  | unknownType
  | invalidRootType
  | malformedNode
  | invalidDocument
  deriving DecidableEq, Repr

/-- The class of a fault. -/
def Fault.faultClass : Fault → FaultClass
  | .documentUnreadable _ => .invalidDocument
  | .mappingUnreadable _ _ => .schema
  | .rootNotObject _ | .rootKeyword _ => .invalidRootType
  | .nullType => .unsupportedType
  | .unknownWord _ | .unknownValue _ => .unknownType
  | _ => .malformedNode

/-! ## Wording -/

/-- The word for a parameter. -/
def Parameter.word : Parameter → String
  | .precision => "precision"
  | .scale => "scale"

/-- The word for a part of a map type. -/
def MapPart.word : MapPart → String
  | .key => "key"
  | .value => "value"

/-- How a message names a composite type. -/
def Composite.label : Composite → String
  | .decimal => "Decimal type"
  | .map => "Map type"
  | .object => "Object type"

/-- The wording of an unreadable source. -/
def Unreadable.message : Unreadable → Text
  | .bytes malformed => malformed.message
  | .text complaint => complaint.message

/-- The wording of a fault, without its place. -/
def Fault.message : Fault → Text
  | .documentUnreadable cause => "Schema document is not valid JSON: " ++ cause.message
  | .mappingUnreadable file cause =>
    "Mapping file " ++ file ++ " is not valid JSON: " ++ cause.message
  | .rootNotObject value => "Schema document root must be a JSON object, got " ++ value.sortName
  | .rootKeyword keyword =>
    "Schema document root must be an object or a field grouping, got '" ++ keyword.word ++ "'"
  | .nullType => "Data type '" ++ Keyword.null.word ++ "' is not supported by Iceberg schema"
  | .unknownWord word => "Unknown data type '" ++ word ++ "'"
  | .unknownValue value => "Unknown data type " ++ value.display
  | .notObject value => "Field definition must be a JSON object, got " ++ value.display
  | .groupingProperties => "Field grouping 'properties' must be a JSON object"
  | .groupingEmpty => "Field grouping has no fields"
  | .properties of => of.label ++ " requires a non-empty 'properties' object"
  | .missingParameter parameter =>
    Composite.decimal.label ++ " requires '" ++ parameter.word ++ "' in 'properties'"
  | .missingMapPart part => Composite.map.label ++ " requires '" ++ part.word ++ "' in 'properties'"
  | .missingItems => "Array type requires 'items'"
  | .parameterNotNumber parameter value =>
    "Decimal " ++ parameter.word ++ " must be a number, got " ++ value.display
  | .parameterNotInteger parameter value =>
    "Decimal " ++ parameter.word ++ " must be an integer, got " ++ value.display
  | .overlayNotObject => "Overlay must be a JSON object"
  | .overlayEntry => "Overlay entry must map to exactly one \x7bnew_key: definition\x7d pair"
  | .overlayDefinition => "Overlay entry must map a string key to a definition object"

/-! ## Places -/

/-- A step from a record to one of its fields, from an array type to its items, or from a map type
to its keys or values. -/
inductive Step where
  | field (name : Text)
  | item
  | part (part : MapPart)
  deriving DecidableEq, Repr

/-- The path one step further on. A field name follows a dot, unless the path is empty. -/
def Step.extend (path : Text) : Step → Text
  | .field name => if path.isEmpty then name else path ++ "." ++ name
  | .item => path ++ "[]"
  | .part p => path ++ "<" ++ p.word ++ ">"

/-- The path that leads from a start along some steps. -/
def pathFrom (start : Text) (steps : List Step) : Text :=
  steps.foldl Step.extend start

/-- A fault and the steps that lead to it, the outermost one first. -/
structure PlacedFault where
  steps : List Step
  fault : Fault
  deriving Repr

/-- A fault at the place where one stands. -/
def Fault.here {α : Type} (fault : Fault) : Except PlacedFault α :=
  .error ⟨[], fault⟩

/-- Places the fault of a part one step further on. -/
def Step.inside {α : Type} (step : Step) (part : Except PlacedFault α) : Except PlacedFault α :=
  part.mapError fun placed => ⟨step :: placed.steps, placed.fault⟩

/-- A reported fault. Faults of a whole document have no path. -/
structure SchemaError where
  fault : Fault
  path : Option Text
  deriving Repr

/-- A placed fault, with its path from a start. -/
def PlacedFault.toError (start : Text) (placed : PlacedFault) : SchemaError :=
  ⟨placed.fault, some (pathFrom start placed.steps)⟩

/-- The report of a fault. A path that is not empty is part of it. -/
def SchemaError.message (e : SchemaError) : Text :=
  match e.path with
  | none | some [] => e.fault.message
  | some path => e.fault.message ++ " (at '" ++ path ++ "')"

end TableDdl.Schema
