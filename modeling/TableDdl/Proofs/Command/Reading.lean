import TableDdl.Proofs.Column.Plain
import TableDdl.Proofs.Command.Source
import TableDdl.Proofs.Command.Toolkit
import TableDdl.Proofs.Table.Requested

/-!
# What the commands read and make

Each command reads the settings, the mapping file and the schema file in the same order, and only
then does it make what is its own of the record that it has read (`made_eq`, `produce_outcome`). A
fault of these files is therefore met by all commands alike, if a table that is asked for has a name
and a bucket, and the list of columns stands in the statement (`made_createTable_eq_ok_iff`). All
this holds for every toolkit.
-/

namespace TableDdl.Request

open Json Outcome

variable {kit : Toolkit} {s : Surroundings} {request : Request} {fs : FileSystem} {source : Source}
  {table : TableRequest} {output : Option Path} {path : Path} {product : Product}
  {failure : Failure}

/-- The path of the schema file of a source, by the settings of a run. -/
def locateSchema (kit : Toolkit) (s : Surroundings) (source : Source) : Except Failure Path := do
  let settings ← (kit.settings s).2
  let settings := (showSchema source).settings settings
  let _ ← settings.logging
  (settings.schemaPath s.files source.schemaFile).mapError Failure.file

/-- The record of a schema file, under the overlay in the mapping file of a source. -/
def readSchema (fs : FileSystem) (source : Source) (path : Path) :
    Except Failure Schema.Record := do
  let overlay ← Mapping.load fs source.mapping
  let bytes ← (fs.read path).mapError Failure.file
  ((Document.bytes bytes).buildRecord overlay).outcome

/-- The record of the schema file of a source: what all commands read before they make something of
their own. -/
def reading (kit : Toolkit) (s : Surroundings) (source : Source) :
    Except Failure Schema.Record := do
  let path ← locateSchema kit s source
  readSchema s.files source path

/-- What a request makes in some surroundings, before anything is printed or written. -/
def made (kit : Toolkit) (s : Surroundings) (request : Request) : Except Failure Product := do
  let settings ← (kit.settings s).2
  let _ ← (request.settings settings).logging
  (request.product s.files (request.settings settings)).outcome

/-! ## What is made of a record -/

theorem columnList_outcome (fs : FileSystem) (source : Source) (path : Path) :
    (columnList fs source path).outcome =
      Schema.Record.columnList <$> readSchema fs source path := by
  simp only [columnList, readSchema, Traced.outcome_bind, Traced.outcome_emit, ok_bind,
    outcome_ofExcept]
  cases Mapping.load fs source.mapping with
  | error failure => rfl
  | ok overlay =>
    cases fs.read path with
    | error e => rfl
    | ok bytes => exact Document.compile_outcome overlay (.bytes bytes)

theorem columnSheet_outcome (fs : FileSystem) (source : Source) (path : Path) :
    (columnSheet fs source path).outcome =
      (fun record => sheetOf path record.columns) <$> readSchema fs source path := by
  simp only [columnSheet, readSchema, Traced.outcome_bind, outcome_ofExcept,
    Document.columns_outcome]
  cases Mapping.load fs source.mapping with
  | error failure => rfl
  | ok overlay =>
    cases fs.read path with
    | error e => rfl
    | ok bytes =>
      simp only [Except.mapError, ok_bind]
      cases ((Document.bytes bytes).buildRecord overlay).outcome <;> rfl

theorem tableStatement_outcome (normal : path.IsNormal) (named : table.IsNamed) :
    (tableStatement fs source table path).outcome =
      (fun record => table.statement record.columnList) <$> readSchema fs source path := by
  simp only [tableStatement, readSchema, Traced.outcome_bind, Traced.outcome_emit, ok_bind,
    outcome_ofExcept]
  cases loaded : Mapping.load fs source.mapping with
  | error failure => rfl
  | ok overlay =>
    have accepted := (ofJson_definitionOf_eq_ok_iff normal loaded).mpr ⟨named, rfl⟩
    simp only [ok_bind, accepted, Except.mapError, table.statement_outcome, compileFile,
      Traced.outcome_bind, Traced.outcome_emit, outcome_ofExcept, Document.compile_outcome]
    cases fs.read path with
    | error e => rfl
    | ok bytes =>
      simp only [ok_bind]
      cases ((Document.bytes bytes).buildRecord overlay).outcome <;> rfl

/-- What a request makes of the record of the schema file at a path. -/
def ofRecord (path : Path) : Request → Schema.Record → Product
  | columns _ _, record => .text record.columnList
  | showSchema _, record => .sheet (sheetOf path record.columns)
  | createTable _ table _, record => .text (table.statement record.columnList)

/-- The test for a request whose table, if there is one, has a name and a bucket. -/
def IsNamed : Request → Prop
  | .createTable _ table _ => table.IsNamed
  | _ => True

theorem produce_outcome (normal : path.IsNormal) (named : request.IsNamed) :
    (request.produce fs path).outcome =
      request.ofRecord path <$> readSchema fs request.source path := by
  cases request with
  | columns source output =>
    simp only [produce, Traced.outcome_bind, columnList_outcome, Request.source]
    cases readSchema fs source path <;> rfl
  | showSchema source =>
    simp only [produce, Traced.outcome_bind, columnSheet_outcome, Request.source]
    cases readSchema fs source path <;> rfl
  | createTable source table output =>
    simp only [produce, Traced.outcome_bind, tableStatement_outcome normal named, Request.source]
    cases readSchema fs source path <;> rfl

/-! ## What is made by a run -/

/-- Each command finds the schema file and then makes what is its own. -/
theorem made_eq (kit : Toolkit) (s : Surroundings) (request : Request) :
    request.made kit s = locateSchema kit s request.source >>= fun path =>
      (request.produce s.files path).outcome := by
  have own (settings : Settings) : (showSchema request.source).settings settings =
      request.settings settings := rfl
  simp only [made, locateSchema, own, product, Traced.outcome_bind, outcome_ofExcept]
  cases (kit.settings s).2 with
  | error failure => rfl
  | ok settings =>
    simp only [ok_bind]
    cases (request.settings settings).logging <;> rfl

theorem isNormal_of_locateSchema (normal : source.IsNormal)
    (located : locateSchema kit s source = .ok path) : path.IsNormal := by
  obtain ⟨settings, loaded, located⟩ := bind_eq_ok_iff.mp located
  obtain ⟨-, -, found⟩ := bind_eq_ok_iff.mp located
  have directory := @isNormal_settings (showSchema source) settings normal
    (Settings.isNormal_schemaDirectory_of_settings loaded)
  exact Settings.isNormal_of_schemaPath directory normal.schemaFile (mapError_eq_ok_iff.mp found)

/-- Each command makes what is its own of what is read, if its table has a name and a bucket. -/
theorem made_of_isNamed (normal : request.source.IsNormal) (named : request.IsNamed) :
    request.made kit s = locateSchema kit s request.source >>= fun path =>
      request.ofRecord path <$> readSchema s.files request.source path := by
  rw [made_eq]
  cases located : locateSchema kit s request.source with
  | error failure => rfl
  | ok path =>
    simp only [ok_bind]
    exact produce_outcome (isNormal_of_locateSchema normal located) named

/-- A fault of the settings, of the schema file or of the mapping file is met by each command. -/
theorem made_of_reading_error (normal : request.source.IsNormal) (named : request.IsNamed)
    (failed : reading kit s request.source = .error failure) :
    request.made kit s = .error failure := by
  rw [made_of_isNamed normal named]
  rcases bind_eq_error_iff.mp failed with unlocated | ⟨path, located, unread⟩
  · rw [unlocated]
    rfl
  · rw [located]
    exact map_eq_error_iff.mpr unread

/-! ## The list and the statement -/

/-- `Lists kit s source list`: the list of the columns of a schema file, as the settings, the schema
file and the mapping file give it. -/
def Lists (kit : Toolkit) (s : Surroundings) (source : Source) (list : Text) : Prop :=
  (columns source none).made kit s = .ok (.text list)

theorem made_columns_eq (kit : Toolkit) (s : Surroundings) (source : Source)
    (output : Option Path) :
    (columns source output).made kit s =
      (fun record => .text record.columnList) <$> reading kit s source := by
  rw [made_eq, Request.source, reading]
  cases locateSchema kit s source with
  | error failure => rfl
  | ok path =>
    simp only [ok_bind, produce, Traced.outcome_bind, columnList_outcome]
    cases readSchema s.files source path <;> rfl

theorem lists_iff {list : Text} :
    Lists kit s source list ↔
      ∃ record, reading kit s source = .ok record ∧ record.columnList = list := by
  simp only [Lists, made_columns_eq, map_eq_ok_iff, Product.text.injEq]

/-- What a request for a list makes is a list. -/
theorem exists_lists_of_made (made : (columns source output).made kit s = .ok product) :
    ∃ list, product = .text list ∧ Lists kit s source list := by
  rw [made_columns_eq] at made
  obtain ⟨record, read, rfl⟩ := map_eq_ok_iff.mp made
  exact ⟨record.columnList, rfl, lists_iff.mpr ⟨record, read, rfl⟩⟩

theorem isPlain_of_lists {list : Text} (lists : Lists kit s source list) : list.IsPlain := by
  obtain ⟨record, -, rfl⟩ := lists_iff.mp lists
  exact Column.isPlain_columnList record

/-- Only a table with a name and a bucket has a statement. -/
theorem isNamed_of_tableStatement {t : Text} (normal : path.IsNormal)
    (stated : (tableStatement fs source table path).outcome = .ok t) : table.IsNamed := by
  simp only [tableStatement, Traced.outcome_bind, outcome_ofExcept] at stated
  obtain ⟨overlay, loaded, stated⟩ := bind_eq_ok_iff.mp stated
  obtain ⟨definition, accepted, -⟩ := bind_eq_ok_iff.mp stated
  exact ((ofJson_definitionOf_eq_ok_iff normal loaded).mp (mapError_eq_ok_iff.mp accepted)).1

theorem isNamed_of_made (normal : request.source.IsNormal)
    (made : request.made kit s = .ok product) : request.IsNamed := by
  rw [made_eq] at made
  obtain ⟨path, located, produced⟩ := bind_eq_ok_iff.mp made
  cases request with
  | createTable source table output =>
    simp only [produce, Traced.outcome_bind] at produced
    obtain ⟨t, stated, -⟩ := bind_eq_ok_iff.mp produced
    exact isNamed_of_tableStatement (isNormal_of_locateSchema normal located) stated
  | _ => trivial

/-- A statement is made exactly if the name and the bucket of the table are in order and the list of
columns is made of the same files; the list stands in the statement. -/
theorem made_createTable_eq_ok_iff (normal : source.IsNormal) :
    (createTable source table output).made kit s = .ok product ↔
      table.IsNamed ∧ ∃ list, Lists kit s source list ∧ product = .text (table.statement list) := by
  have own : (createTable source table output).source.IsNormal := normal
  have stated (named : table.IsNamed) : (createTable source table output).made kit s =
      (fun record => .text (table.statement record.columnList)) <$> reading kit s source := by
    rw [made_of_isNamed own named, Request.source, reading]
    cases locateSchema kit s source <;> rfl
  constructor
  · intro made
    have named : table.IsNamed := isNamed_of_made own made
    rw [stated named] at made
    obtain ⟨record, read, rfl⟩ := map_eq_ok_iff.mp made
    exact ⟨named, _, lists_iff.mpr ⟨record, read, rfl⟩, rfl⟩
  · intro listed
    obtain ⟨named, list, lists, rfl⟩ := listed
    obtain ⟨record, read, rfl⟩ := lists_iff.mp lists
    rw [stated named, read]
    rfl

theorem isScalar_statement {list : Text} (scalar : ∀ t ∈ table.texts, IsScalar t)
    (plain : list.IsPlain) : IsScalar (table.statement list) := by
  refine TableRequest.forall_mem_statement (fun p visible => ?_) scalar plain.isScalar
  have single : Text.IsPlain [p] := List.forall_mem_singleton.mpr visible
  exact single.isScalar p List.mem_cons_self

end TableDdl.Request
