import TableDdl.Column.List
import TableDdl.Failure
import TableDdl.Schema.OfJson

/-!
# Compiling documents

From the bytes or the text of a schema document to the columns of a table. All ways of compiling go
through `buildRecord`.
-/

namespace TableDdl

/-- A schema document: bytes in UTF-8, or a text. -/
inductive Document where
  | bytes (content : List UInt8)
  | text (content : Text)

namespace Document

/-- The text of a document. -/
def decode : Document → Except Schema.Unreadable Text
  | .bytes content =>
    match Utf8.decode content with
    | .ok cs => .ok (cs.map .scalar)
    | .error malformed => .error (.bytes malformed)
  | .text content => .ok content

/-- The JSON value of a document. -/
def load (document : Document) : Except Failure Json :=
  match document.decode with
  | .error cause => .error (.schema ⟨.documentUnreadable cause, none⟩)
  | .ok t =>
    match Json.read t with
    | .ok value => .ok value
    | .error (.malformed complaint) =>
      .error (.schema ⟨.documentUnreadable (.text complaint), none⟩)
    | .error (.longInteger digits) => .error (.longInteger digits)

/-- The record that a document describes, with an overlay. -/
def buildRecord (overlay : Option Schema.Overlay) (document : Document) :
    Traced Failure Schema.Record := do
  let value ← Traced.ofExcept document.load
  (Schema.recordOf overlay value).mapError Failure.schema

/-- The columns that a document compiles to. -/
def columns (overlay : Option Schema.Overlay) (document : Document) :
    Traced Failure (List Column) := do
  let record ← document.buildRecord overlay
  pure record.columns

/-- The column list that a document compiles to. The number of columns is reported. -/
def compile (overlay : Option Schema.Overlay) (document : Document) : Traced Failure Text := do
  let record ← document.buildRecord overlay
  .emit (.columnsCompiled record.fields.toList.length)
  pure record.columnList

end Document

/-- The column list that a schema file compiles to. The size of the file is reported. -/
def compileFile (fs : FileSystem) (overlay : Option Schema.Overlay) (path : Path) :
    Traced Failure Text := do
  let bytes ← Traced.ofExcept ((fs.read path).mapError Failure.file)
  .emit (.documentLoaded path.toText bytes.length)
  (Document.bytes bytes).compile overlay

end TableDdl
