import TableDdl.Text.Basic

/-!
# Type keywords

The words that a schema document may give as the type of a field.
-/

namespace TableDdl.Schema

/-- The keywords of the types without parts. -/
inductive Primitive where
  | string
  | boolean
  | integer
  | number
  | float
  | date
  | datetime
  | timestamp
  | long
  deriving DecidableEq, Inhabited, Repr

/-- The type keywords. -/
inductive Keyword where
  | primitive (p : Primitive)
  | decimal
  | array
  | object
  | map
  | null
  deriving DecidableEq, Inhabited, Repr

/-- The word of a primitive type. -/
def Primitive.word : Primitive → String
  | .string => "string"
  | .boolean => "boolean"
  | .integer => "integer"
  | .number => "number"
  | .float => "float"
  | .date => "date"
  | .datetime => "datetime"
  | .timestamp => "timestamp"
  | .long => "long"

namespace Keyword

/-- The word of a keyword. -/
def word : Keyword → String
  | .primitive p => p.word
  | .decimal => "decimal"
  | .array => "array"
  | .object => "object"
  | .map => "map"
  | .null => "null"

/-- The primitive types in their customary order. -/
def primitives : List Primitive :=
  [.string, .boolean, .integer, .number, .float, .date, .datetime, .timestamp, .long]

/-- All keywords in their customary order. -/
def all : List Keyword :=
  primitives.map .primitive ++ [.decimal, .array, .object, .map, .null]

/-- The keyword that a text spells. -/
def ofText? (t : Text) : Option Keyword :=
  all.find? fun keyword => Text.ofString keyword.word = t

theorem ofText?_word (keyword : Keyword) : ofText? keyword.word = some keyword := by
  rcases keyword with (p | _ | _ | _ | _ | _)
  · cases p <;> decide
  all_goals decide

theorem word_of_ofText? {t : Text} {keyword : Keyword} (h : ofText? t = some keyword) :
    Text.ofString keyword.word = t := by
  simpa using List.find?_some h

end Keyword

end TableDdl.Schema
