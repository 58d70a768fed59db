import TableDdl.Schema.FieldType
import TableDdl.Validation

/-!
# Checked construction

Field types made from words and lists that need not fit: a word has to be that of a primitive type,
and a record needs a field.
-/

namespace TableDdl.Schema

/-- The primitive type that a word spells. -/
def FieldType.ofWord (word : Text) : Except IssueKind FieldType :=
  match Keyword.ofText? word with
  | some (.primitive kind) => .ok (.primitive kind)
  | some keyword => .error (.custom ("'" ++ keyword.word ++ "' is not a primitive type keyword"))
  | none => .error (.notKeyword (Keyword.all.map Keyword.word))

/-- The record with a list of fields. -/
def Record.ofList (form : Form) (fields : List (Text × FieldType)) : Except IssueKind Record :=
  match Fields.ofList? fields with
  | some fields => .ok ⟨form, fields⟩
  | none => .error .emptyList

end TableDdl.Schema
