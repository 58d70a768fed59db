import TableDdl.File.Path
import TableDdl.Json.Writer
import TableDdl.Text.Utf8

/-!
# Validation

The checks of values that come from outside against the declared fields of a structure. All faults
are collected, in the order of the fields.
-/

namespace TableDdl

/-- A step to the value at fault: a field or a key by its name, or an item by its number. -/
inductive LocationStep where
  | name (name : Text)
  | index (n : Nat)
  deriving DecidableEq, Repr

/-- What is wrong with a value. -/
inductive IssueKind where
  | missing
  | notInstance (model : String)
  | notText
  | loneSurrogate
  | emptyText
  | notList
  | emptyList
  | notObject
  | notPath
  | notKeyword (words : List String)
  | notChoice (choices : List String)
  | custom (message : Text)
  deriving DecidableEq, Repr

/-- An issue: its kind, where it is, and the value at fault. -/
structure Issue where
  kind : IssueKind
  location : List LocationStep
  input : Json
  deriving Repr

/-- The issues that were found when a model was built. There is at least one. -/
structure ValidationReport where
  model : String
  issues : List Issue
  deriving Repr

/-- A checked value, or the issues that were found in it. -/
abbrev Checked (α : Type) := Except (List Issue) α

namespace Checked

variable {α β : Type}

/-- A value without issues. -/
def of (a : α) : Checked α := .ok a

/-- The issues of a check. -/
def issues : Checked α → List Issue
  | .ok _ => []
  | .error found => found

/-- One issue. -/
def reject (kind : IssueKind) (location : List LocationStep) (input : Json) : Checked α :=
  .error [⟨kind, location, input⟩]

/-- Applies a checked function to a checked value; the issues of both are kept, in order. -/
def ap (f : Checked (α → β)) (x : Checked α) : Checked β :=
  match f, x with
  | .ok f, .ok a => .ok (f a)
  | f, x => .error (f.issues ++ x.issues)

/-- Checks the elements of a list in order and keeps all issues. -/
def all (check : α → Checked β) : List α → Checked (List β)
  | [] => .ok []
  | a :: rest => ap (ap (.ok List.cons) (check a)) (all check rest)

end Checked

/-! ## Checks of fields

Each takes the place of the value first, which is where its issues are. -/

namespace Check

/-- A text. -/
def text (location : List LocationStep) : Json → Checked Text
  | .text t => .ok t
  | input => .reject .notText location input

/-- A text of characters that is not empty. -/
def filledText (location : List LocationStep) (input : Json) : Checked Text :=
  match input with
  | .text [] => .reject .emptyText location input
  | .text t => if t.chars?.isSome then .ok t else .reject .loneSurrogate location input
  | _ => .reject .notText location input

/-- Null, or a value that passes a check. -/
def nullable {α : Type} (check : List LocationStep → Json → Checked α)
    (location : List LocationStep) : Json → Checked (Option α)
  | .null => .ok none
  | input => some <$> check location input

/-- The text of a path. -/
def path (location : List LocationStep) : Json → Checked Path
  | .text t => .ok (Path.ofText t)
  | input => .reject .notPath location input

/-- A list of texts. -/
def texts (location : List LocationStep) : Json → Checked (List Text)
  | .array items =>
    Checked.all (fun (item, n) => text (location ++ [.index n]) item) items.zipIdx
  | input => .reject .notList location input

/-- An object whose values pass a check. -/
def members {α : Type} (check : List LocationStep → Json → Checked α)
    (location : List LocationStep) : Json → Checked (List (Text × α))
  | .object ms =>
    Checked.all (fun (key, value) => (key, ·) <$> check (location ++ [.name key]) value) ms
  | input => .reject .notObject location input

/-- An object with any values. -/
def object (location : List LocationStep) : Json → Checked Json
  | .object ms => .ok (.object ms)
  | input => .reject .notObject location input

/-- One of some words. -/
def choice (choices : List String) (location : List LocationStep) (input : Json) : Checked Text :=
  match input with
  | .text t =>
    if choices.any (Text.ofString · = t) then .ok t else .reject (.notChoice choices) location input
  | _ => .reject (.notChoice choices) location input

/-- The field of an object, or a value in its place if it is not there. -/
def field {α : Type} (ms : Json.Members) (name : String) (absent : Checked α)
    (check : List LocationStep → Json → Checked α) : Checked α :=
  match ms.get? name with
  | some value => check [.name name] value
  | none => absent

/-- A field that has to be there. -/
def required {α : Type} (ms : Json.Members) (name : String)
    (check : List LocationStep → Json → Checked α) : Checked α :=
  field ms name (.reject .missing [.name name] (.object ms)) check

end Check

namespace IssueKind

/-- The short name of a kind of issue. -/
def code : IssueKind → String
  | .missing => "missing"
  | .notInstance _ => "model_type"
  | .notText => "string_type"
  | .loneSurrogate => "string_unicode"
  | .emptyText => "string_too_short"
  | .notList => "list_type"
  | .emptyList => "too_short"
  | .notObject => "dict_type"
  | .notPath => "path_type"
  | .notKeyword _ => "enum"
  | .notChoice _ => "literal_error"
  | .custom _ => "value_error"

/-- Choices in quotation marks, with `or` before the last one. -/
def choiceList : List String → Text
  | [] => []
  | [word] => "'" ++ word ++ "'"
  | [first, second] => "'" ++ first ++ "' or '" ++ second ++ "'"
  | first :: rest => "'" ++ first ++ "', " ++ choiceList rest

/-- The wording of a kind of issue. -/
def message : IssueKind → Text
  | .missing => "Field required"
  | .notInstance model => "Input should be a valid dictionary or instance of " ++ model
  | .notText => "Input should be a valid string"
  | .loneSurrogate =>
    "Input should be a valid string, unable to parse raw data as a unicode string"
  | .emptyText => "String should have at least 1 character"
  | .notList => "Input should be a valid list"
  | .emptyList => "List should have at least 1 item after validation, not 0"
  | .notObject => "Input should be a valid dictionary"
  | .notPath => "Input is not a valid path for <class 'pathlib.Path'>"
  | .notKeyword words => "Input should be " ++ choiceList words
  | .notChoice choices => "Input should be " ++ choiceList choices
  | .custom message => "Value error, " ++ message

end IssueKind

end TableDdl
