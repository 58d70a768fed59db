import TableDdl.Compile

/-!
# Mapping files

An overlay kept in a file of its own. Unlike a schema document the file is read as text: every line
ending is a line feed before the places of errors are counted.
-/

namespace TableDdl.Mapping

/-- The text with a line feed for every carriage return and for every carriage return with a line
feed after it. -/
def unifyLineEndings : List Char → List Char
  | [] => []
  | '\r' :: '\n' :: rest => '\n' :: unifyLineEndings rest
  | '\r' :: rest => '\n' :: unifyLineEndings rest
  | c :: rest => c :: unifyLineEndings rest

/-- The overlay in the bytes of a mapping file, whose path is part of a report. -/
def ofBytes (path : Path) (bytes : List UInt8) : Except Failure (Option Schema.Overlay) :=
  match Utf8.decode bytes with
  | .error malformed =>
    .error (.schema ⟨.mappingUnreadable path.toText (.bytes malformed), none⟩)
  | .ok cs =>
    match Json.read ((unifyLineEndings cs).map .scalar) with
    | .error (.malformed complaint) =>
      .error (.schema ⟨.mappingUnreadable path.toText (.text complaint), none⟩)
    | .error (.longInteger digits) => .error (.longInteger digits)
    | .ok value => (Schema.Overlay.ofJson value).mapError Failure.schema

/-- The overlay of a mapping file, if one is given. -/
def load (fs : FileSystem) : Option Path → Except Failure (Option Schema.Overlay)
  | none => .ok none
  | some path => do
    let bytes ← (fs.read path).mapError Failure.file
    ofBytes path bytes

end TableDdl.Mapping
