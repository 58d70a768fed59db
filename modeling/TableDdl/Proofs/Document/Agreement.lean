import TableDdl.Proofs.Column.Unambiguous
import TableDdl.Proofs.Document.ReadBack
import TableDdl.Proofs.Table.Definition
import TableDdl.Table.Statement

/-!
# The ways of compiling agree

A document can be taken as a record, as columns or as a list of columns; a file with its bytes can
be compiled by itself or for a table. All of this fails with one and the same failure, or all of it
succeeds. The list of columns is then the text of the record as a type, without the words around
it, and each number in it has few enough digits to be written.
-/

namespace TableDdl

open Json Outcome Schema

/-! ## The numbers in a type -/

mutual

/-- The parameters of the decimal types inside of a type, in order. -/
def Schema.FieldType.parameters : FieldType → List Int
  | .primitive _ => []
  | .decimal precision scale => [precision, scale]
  | .array item => item.parameters
  | .map key value => key.parameters ++ value.parameters
  | .record _ fields => fields.parameters

/-- The parameters of the decimal types inside of the types of fields, in order. -/
def Schema.Fields.parameters : Fields → List Int
  | .last _ type => type.parameters
  | .more _ type others => type.parameters ++ others.parameters

end

section Digits

variable {names : Text → Prop}

mutual

theorem fewDigits_of_mem_parameters :
    (t : FieldType) → t.IsRegular names → ∀ n ∈ t.parameters, FewDigits n := by
  intro t regular
  match t with
  | .primitive kind => exact fun _ mem => absurd mem List.not_mem_nil
  | .decimal precision scale =>
    exact List.forall_mem_cons.mpr ⟨regular.1, List.forall_mem_singleton.mpr regular.2⟩
  | .array item => exact fewDigits_of_mem_parameters item regular
  | .map key value =>
    exact List.forall_mem_append.mpr
      ⟨fewDigits_of_mem_parameters key regular.1, fewDigits_of_mem_parameters value regular.2⟩
  | .record form fields => exact fewDigits_of_mem_fieldParameters fields regular.2

theorem fewDigits_of_mem_fieldParameters :
    (fields : Fields) → fields.IsRegular names → ∀ n ∈ fields.parameters, FewDigits n := by
  intro fields regular
  match fields with
  | .last name type => exact fewDigits_of_mem_parameters type regular.2
  | .more name type others =>
    exact List.forall_mem_append.mpr
      ⟨fewDigits_of_mem_parameters type regular.2.1,
        fewDigits_of_mem_fieldParameters others regular.2.2⟩

end

/-- What stands in the place of a member is regular if the overlay is. -/
theorem isRegular_of_replaces {overlay : Option Overlay} {key name : Text} {v v' : Json}
    (replaces : Replaces overlay key v name v')
    (entries : ∀ o, overlay = some o → (Json.object o).IsRegular names Binary64.InRange)
    (regular : v.IsRegular names Binary64.InRange) : v'.IsRegular names Binary64.InRange := by
  cases replaces with
  | kept => exact regular
  | replaced found =>
    obtain ⟨o, given, found⟩ := Option.bind_eq_some_iff.mp found
    exact (((entries o given).get? found).of_mem List.mem_cons_self).2

theorem fewDigits_of_describesColumns {overlay : Option Overlay} {members : Json.Members}
    {fields : Fields} (describes : DescribesColumns overlay members fields)
    (entries : ∀ o, overlay = some o → (Json.object o).IsRegular names Binary64.InRange)
    (regular : ∀ member ∈ members, member.2.IsRegular names Binary64.InRange) :
    ∀ n ∈ fields.parameters, FewDigits n := by
  induction describes with
  | last replaces described =>
    have own := isRegular_of_replaces replaces entries (regular _ List.mem_cons_self)
    exact fewDigits_of_mem_parameters _ (isRegular_of_describes _ described own)
  | more replaces described _ ih =>
    obtain ⟨first, rest⟩ := List.forall_mem_cons.mp regular
    have own := isRegular_of_replaces replaces entries first
    exact List.forall_mem_append.mpr
      ⟨fewDigits_of_mem_parameters _ (isRegular_of_describes _ described own), ih rest⟩

/-- The record of a regular document under a regular overlay can be written. -/
theorem fewDigits_of_describesDocument {overlay : Option Overlay} {document : Json} {r : Record}
    (describes : DescribesDocument overlay document r)
    (entries : ∀ o, overlay = some o → (Json.object o).IsRegular names Binary64.InRange)
    (regular : document.IsRegular names Binary64.InRange) :
    ∀ n ∈ r.toType.parameters, FewDigits n := by
  cases describes with
  | object described =>
    exact fewDigits_of_mem_parameters _ (isRegular_of_describes _ described regular)
  | @grouping members inner fields _ inside described =>
    have grouped : (Json.object inner).IsRegular names Binary64.InRange := by
      rcases inside with found | ⟨-, rfl⟩
      · exact regular.get? found
      · exact regular
    exact fewDigits_of_describesColumns described entries fun member mem => (grouped.of_mem mem).2

end Digits

/-! ## From the record on -/

variable {document : Document} {overlay : Option Overlay} {fs : FileSystem} {path : Path}
  {bytes : List UInt8}

namespace Document

theorem columns_outcome (overlay : Option Overlay) (document : Document) :
    (document.columns overlay).outcome = Record.columns <$> (document.buildRecord overlay).outcome
    := by
  rw [columns, Traced.outcome_bind]
  cases (document.buildRecord overlay).outcome <;> rfl

theorem compile_outcome (overlay : Option Overlay) (document : Document) :
    (document.compile overlay).outcome =
      Record.columnList <$> (document.buildRecord overlay).outcome := by
  rw [compile, Traced.outcome_bind]
  cases (document.buildRecord overlay).outcome <;> rfl

end Document

/-- A file is compiled as the document of its bytes. -/
theorem compileFile_outcome (read : fs.read path = .ok bytes) :
    (compileFile fs overlay path).outcome = ((Document.bytes bytes).compile overlay).outcome := by
  rw [compileFile, Traced.outcome_bind, read]
  rfl

/-- A table whose columns are to be compiled, and that has no extra ones, has the columns of its
file. -/
theorem columnList_outcome {definition : TableDefinition} (noColumns : definition.columns = none)
    (noExtra : definition.extraColumns = []) (source : definition.schemaFile = some path)
    (read : fs.read path = .ok bytes) :
    (definition.columnList fs).outcome =
      ((Document.bytes bytes).compile definition.mapping).outcome := by
  rw [TableDefinition.columnList, Traced.outcome_bind, TableDefinition.ownColumns, noColumns,
    source, noExtra]
  simp only [compileFile_outcome read]
  cases ((Document.bytes bytes).compile definition.mapping).outcome <;> rfl

/-! ## Agreement -/

/-- `CompiledAs document overlay outcome`: this is what the document compiles to under the overlay,
and so does every file with its bytes, by itself and for every table definition that is accepted
with the overlay as its mapping, without columns of its own and without extra ones. -/
structure CompiledAs (document : Document) (overlay : Option Overlay)
    (outcome : Except Failure Text) : Prop where
  itself : (document.compile overlay).outcome = outcome
  file : ∀ bytes fs path, document = .bytes bytes → fs.read path = .ok bytes →
    (compileFile fs overlay path).outcome = outcome
  table : ∀ bytes fs path (ms : Json.Members) definition, document = .bytes bytes →
    fs.read path = .ok bytes → ms.get? "mapping" = some (TableDefinition.mappingValue overlay) →
    TableDefinition.ofJson (.object ms) = .ok definition → definition.columns = none →
    definition.extraColumns = [] → definition.schemaFile = some path →
    (definition.columnList fs).outcome = outcome

theorem compiledAs (overlay : Option Overlay) (document : Document) :
    CompiledAs document overlay (Record.columnList <$> (document.buildRecord overlay).outcome) := by
  rw [← Document.compile_outcome]
  refine ⟨rfl, ?file, ?table⟩
  case file =>
    rintro bytes fs path rfl read
    exact compileFile_outcome read
  case table =>
    rintro bytes fs path ms definition rfl read mapping accepted noColumns noExtra source
    have made := (TableDefinition.ofJson_object_eq_ok_iff.mp accepted).1
    rw [columnList_outcome noColumns noExtra source read, made.mapping_eq mapping]

/-- The type that a record is written as is its list of columns as a structure. -/
theorem typeText_toType (r : Record) :
    Column.typeText r.toType = "struct<" ++ r.columnList ++ ">" := by
  rw [Column.columnList_eq_fieldsText, Record.toType, Column.typeText]

/-- A document of which the record is accepted, read under an overlay that was itself read from a
text. -/
theorem fewDigits_of_buildRecord {r : Record}
    (given : ∀ entries, overlay = some entries → ∃ t, Json.read t = .ok (.object entries))
    (accepted : (document.buildRecord overlay).outcome = .ok r) :
    ∀ n ∈ r.toType.parameters, FewDigits n := by
  have regular {t : Text} {v : Json} (read : Json.read t = .ok v) :
      v.IsRegular (fun _ => True) Binary64.InRange :=
    isRegular_of_read (fun _ _ _ _ => trivial) read
  obtain ⟨v, loaded, read⟩ := Document.buildRecord_outcome_eq_ok_iff.mp accepted
  obtain ⟨t, -, value⟩ := Document.load_eq_ok_iff.mp loaded
  refine fewDigits_of_describesDocument (describesDocument_of_read read) ?_ (regular value)
  intro entries same
  obtain ⟨text, readEntries⟩ := given entries same
  exact regular readEntries

/-- Under an overlay that was read from a text, all ways of compiling a document fail alike, or all
of them succeed. In this case the columns are those of the fields in order, the text is made of the
columns in the form of the record, the record as a type is this text as a structure, and the numbers
in it have no more digits than are read. -/
theorem ways_of_compiling_agree (document : Document) (overlay : Option Overlay)
    (given : ∀ entries, overlay = some entries → ∃ t, Json.read t = .ok (.object entries)) :
    (∃ failure, (document.buildRecord overlay).outcome = .error failure ∧
      (document.columns overlay).outcome = .error failure ∧
        CompiledAs document overlay (.error failure)) ∨
    ∃ (r : Record) (columns : List Column) (text : Text),
      (document.buildRecord overlay).outcome = .ok r ∧
      (document.columns overlay).outcome = .ok columns ∧
      CompiledAs document overlay (.ok text) ∧
      columns = r.fields.toList.map (fun field =>
        ⟨Column.sanitize field.1, Column.typeText field.2⟩) ∧
      text = Text.join ", " (columns.map fun column =>
        column.name ++ (if r.form = .explicit then ": " else " ") ++ column.type) ∧
      "struct<" ++ text ++ ">" = Column.typeText r.toType ∧
      ∀ n ∈ r.toType.parameters, FewDigits n := by
  have columns := Document.columns_outcome overlay document
  have compiled := compiledAs overlay document
  cases built : (document.buildRecord overlay).outcome with
  | error failure =>
    rw [built] at columns compiled
    exact Or.inl ⟨failure, rfl, columns, compiled⟩
  | ok r =>
    rw [built] at columns compiled
    refine Or.inr ⟨r, r.columns, r.columnList, rfl, columns, compiled, rfl, ?text,
      (typeText_toType r).symm, fewDigits_of_buildRecord given built⟩
    case text =>
      obtain ⟨form, fields⟩ := r
      cases form <;> rfl

/-! ## A replaced column -/

/-- A document with one column. -/
def oneColumn : Json := .object [("id", .object [("type", .text "string")])]

/-- The bytes of a text of this document. -/
def oneColumnBytes : List UInt8 :=
  Utf8.encode "\x7b\"id\": \x7b\"type\": \"string\"\x7d\x7d".toList

/-- An overlay that makes the column a price. -/
def priceOverlay : Overlay := [("id", .object [("price", encode (.decimal 38 2))])]

/-- A working directory with the document in a file. -/
def oneColumnFiles : FileSystem := ⟨[], [([FileName.ofText "s"], .file oneColumnBytes)]⟩

/-- A table of the columns in this file, with the overlay as its mapping. -/
def priceTable : Json.Members :=
  [("table_name", .text "t"), ("bucket_name", .text "b"), ("schema_file", .text "s"),
    ("mapping", TableDefinition.mappingValue (some priceOverlay))]

/-- The definition that this table has. -/
def priceDefinition : TableDefinition where
  tableName := "t"
  bucketName := "b"
  bucketPrefix := []
  columns := none
  schemaFile := some (.ofText "s")
  mapping := some priceOverlay
  extraColumns := []
  partitionedBy := []
  tableProperties := TableDefinition.defaultProperties

theorem priceTable_accepted :
    TableDefinition.ofJson (.object priceTable) = .ok priceDefinition := rfl

theorem read_oneColumn : Json.read (write oneColumn) = .ok oneColumn :=
  read_write (isWritable_one (isWritable_one (.text (isJoined_ofString "string"))))

theorem oneColumnBytes_loads : (Document.bytes oneColumnBytes).load = .ok oneColumn := by
  have decoded : (Document.bytes oneColumnBytes).decode = .ok (write oneColumn) := by
    rw [Document.decode, oneColumnBytes, Utf8.decode_encode]
    rfl
  exact Document.load_eq_ok_iff.mpr ⟨_, decoded, read_oneColumn⟩

theorem priceOverlay_is_read :
    Json.read (write (.object priceOverlay)) = .ok (.object priceOverlay) := by
  have regular : FieldType.IsRegular IsJoined (.decimal 38 2) := ⟨by decide, by decide⟩
  exact read_write (isWritable_one (isWritable_one (isWritable_encode _ regular)))

theorem oneColumn_under_priceOverlay :
    ((Document.bytes oneColumnBytes).buildRecord (some priceOverlay)).outcome =
      .ok ⟨.implicit, .last "price" (.decimal 38 2)⟩ :=
  Document.buildRecord_outcome_eq_ok_iff.mpr ⟨oneColumn, oneColumnBytes_loads,
    read_of_describesDocument (.grouping (Or.inl rfl) (Or.inr ⟨rfl, rfl⟩)
      (.last (.replaced rfl) (describes_encode (.decimal 38 2))))⟩

theorem priceOverlay_ways_agree :
    (∃ t, Json.read t = .ok (.object priceOverlay)) ∧
      ((Document.bytes oneColumnBytes).columns (some priceOverlay)).outcome =
        .ok [⟨"price", "decimal(38,2)"⟩] ∧
      (compileFile oneColumnFiles (some priceOverlay) (.ofText "s")).outcome =
        .ok "price decimal(38,2)" ∧
      ∃ definition, TableDefinition.ofJson (.object priceTable) = .ok definition ∧
        (definition.columnList oneColumnFiles).outcome = .ok "price decimal(38,2)" := by
  have given : ∀ entries, some priceOverlay = some entries →
      ∃ t, Json.read t = .ok (.object entries) := by
    intro entries same
    cases same
    exact ⟨_, priceOverlay_is_read⟩
  have built := oneColumn_under_priceOverlay
  rcases ways_of_compiling_agree (.bytes oneColumnBytes) (some priceOverlay) given with
    ⟨failure, failed, -⟩ | ⟨r, columns, text, accepted, listed, compiled, sameColumns, sameText, -⟩
  · rw [built] at failed
    cases failed
  · cases built.symm.trans accepted
    have column : columns = [⟨"price", "decimal(38,2)"⟩] := sameColumns.trans rfl
    have line : text = "price decimal(38,2)" := by
      rw [sameText, column]
      rfl
    rw [column] at listed
    rw [line] at compiled
    have inFile : oneColumnFiles.read (.ofText "s") = .ok oneColumnBytes := rfl
    have asMapping : priceTable.get? "mapping" =
        some (TableDefinition.mappingValue (some priceOverlay)) := rfl
    exact ⟨given _ rfl, listed, compiled.file _ _ _ rfl inFile, priceDefinition,
      priceTable_accepted, compiled.table _ _ _ priceTable priceDefinition rfl inFile asMapping
        priceTable_accepted rfl rfl rfl⟩

end TableDdl
