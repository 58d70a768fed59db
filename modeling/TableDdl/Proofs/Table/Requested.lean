import TableDdl.Command.Run
import TableDdl.Proofs.Column.Plain
import TableDdl.Proofs.Document.Agreement
import TableDdl.Proofs.File.Path
import TableDdl.Proofs.Schema.OverlayCheck

/-!
# Requested tables

The statement of a requested table is made of the list of columns that the same files give. The list
is compiled by itself; the statement goes through a table definition, which is checked: the path is
read off its text again, and the overlay is taken once more as a mapping. None of these checks fails
unless a name is empty or no row of characters.
-/

namespace TableDdl

open Json Outcome

/-! ## Overlays in files -/

/-- The entries of a mapping file are objects. -/
theorem Mapping.isObject_of_load {fs : FileSystem} {source : Option Path}
    {overlay : Option Schema.Overlay} (loaded : load fs source = .ok overlay) :
    ∀ entries, overlay = some entries → ∀ entry ∈ entries, ∃ inner, entry.2 = .object inner := by
  rintro entries rfl
  cases source with
  | none => cases loaded
  | some path =>
    obtain ⟨bytes, -, taken⟩ := bind_eq_ok_iff.mp loaded
    unfold ofBytes at taken
    split at taken
    · cases taken
    · split at taken
      · cases taken
      · cases taken
      · rename_i value read
        rw [mapError_eq_ok_iff] at taken
        cases value with
        | object members =>
          have regular : IsRegular (fun _ => True) Binary64.InRange (.object members) :=
            isRegular_of_read (fun _ _ _ _ => trivial) read
          obtain ⟨replacements, same⟩ :=
            (Schema.Overlay.ofJson_object_eq_ok_iff regular.nodup).mp taken
          cases same
          intro entry mem
          obtain ⟨name, inner, same⟩ := replacements entry mem
          exact ⟨_, same⟩
        | _ => cases taken

/-! ## The definition -/

namespace TableRequest

/-- The name and the bucket of a table are rows of characters, and not empty. -/
structure IsNamed (table : TableRequest) : Prop where
  name : table.name ≠ [] ∧ IsScalar table.name
  bucket : table.bucket ≠ [] ∧ IsScalar table.bucket

/-- The definition of a requested table, with a schema file and an overlay. -/
def definition (table : TableRequest) (path : Path) (overlay : Option Schema.Overlay) :
    TableDefinition where
  tableName := table.name
  bucketName := table.bucket
  bucketPrefix := table.bucketPrefix
  columns := none
  schemaFile := some path
  mapping := overlay
  extraColumns := table.extraColumns
  partitionedBy := table.partitions
  tableProperties := TableDefinition.defaultProperties

/-- The partition clause of a requested table. -/
def partitionClause (table : TableRequest) : Text :=
  if table.partitions = [] then []
  else "PARTITIONED BY (" ++ Text.join ", " table.partitions ++ ") "

/-- The statement that creates a requested table with a list of columns. -/
def statement (table : TableRequest) (columns : Text) : Text :=
  "CREATE TABLE IF NOT EXISTS " ++ table.name ++ " (" ++ columns ++
    table.extraColumns.flatMap (fun column => Text.ofString ", " ++ column) ++ ") " ++
    table.partitionClause ++
    "LOCATION 's3://" ++ table.bucket ++ "/" ++ table.bucketPrefix ++ table.name ++
    "' TBLPROPERTIES ('table_type'='ICEBERG', 'format'='parquet', " ++
    "'write_compression'='snappy')"

/-- The texts of a requested table. -/
def texts (table : TableRequest) : List Text :=
  table.name :: table.bucket :: table.bucketPrefix :: (table.partitions ++ table.extraColumns)

/-- What holds of plain characters, of the texts of a table and of its columns holds of its
statement. -/
theorem forall_mem_statement {P : CodePoint → Prop} {columns : Text} {table : TableRequest}
    (plain : ∀ p : CodePoint, p.IsPlain → P p) (own : ∀ t ∈ table.texts, ∀ p ∈ t, P p)
    (listed : ∀ p ∈ columns, P p) : ∀ p ∈ table.statement columns, P p := by
  obtain ⟨name, own⟩ := List.forall_mem_cons.mp own
  obtain ⟨bucket, own⟩ := List.forall_mem_cons.mp own
  obtain ⟨bucketPrefix, own⟩ := List.forall_mem_cons.mp own
  obtain ⟨partitions, extraColumns⟩ := List.forall_mem_append.mp own
  have literal {t : Text} (visible : t.IsPlain) : ∀ p ∈ t, P p :=
    fun p mem => plain p (visible p mem)
  have extra : ∀ p ∈ table.extraColumns.flatMap (fun column => Text.ofString ", " ++ column),
      P p := by
    intro p mem
    obtain ⟨column, columnMem, mem⟩ := List.mem_flatMap.mp mem
    exact List.forall_mem_append.mpr ⟨literal (by decide), extraColumns column columnMem⟩ p mem
  have clause : ∀ p ∈ table.partitionClause, P p := by
    rw [partitionClause]
    split
    · exact fun _ mem => absurd mem List.not_mem_nil
    · simp only [List.forall_mem_append]
      refine ⟨⟨literal (by decide), fun p mem => ?_⟩, literal (by decide)⟩
      rcases mem_join mem with comma | ⟨partition, partitionMem, mem⟩
      · exact literal (by decide) p comma
      · exact partitions partition partitionMem p mem
  simp only [statement, List.append_assoc, List.forall_mem_append]
  exact ⟨literal (by decide), name, literal (by decide), listed, extra, literal (by decide), clause,
    literal (by decide), bucket, literal (by decide), bucketPrefix, name, literal (by decide),
    literal (by decide)⟩

end TableRequest

/-- Each column in a list but the first one follows a comma. -/
theorem Text.append_flatMap_comma (columns : Text) (extra : List Text) :
    columns ++ extra.flatMap (fun column => Text.ofString ", " ++ column) =
      if extra.isEmpty then columns else columns ++ ", " ++ Text.join ", " extra := by
  have joined (first : Text) (rest : List Text) :
      Text.join ", " (first :: rest) =
        first ++ rest.flatMap (fun column => Text.ofString ", " ++ column) := by
    induction rest generalizing first with
    | nil => rw [Text.join, List.intercalate_singleton, List.flatMap_nil, List.append_nil]
    | cons second rest ih =>
      rw [Text.join, List.intercalate_cons_of_ne_nil (List.cons_ne_nil _ _), ← Text.join, ih,
        List.flatMap_cons, List.append_assoc, List.append_assoc]
  cases extra with
  | nil => exact List.append_nil columns
  | cons first rest =>
    rw [joined, List.flatMap_cons]
    simp only [List.isEmpty_cons, Bool.false_eq_true, if_false, List.append_assoc]

namespace TableRequest

/-- The columns of a requested table are those of its file and the extra ones. -/
theorem columnList_outcome (fs : FileSystem) (table : TableRequest) (path : Path)
    (overlay : Option Schema.Overlay) :
    ((table.definition path overlay).columnList fs).outcome =
      (fun columns => columns ++
        table.extraColumns.flatMap (fun column => Text.ofString ", " ++ column)) <$>
          (compileFile fs overlay path).outcome := by
  have own : (table.definition path overlay).ownColumns fs = compileFile fs overlay path := rfl
  rw [TableDefinition.columnList, Traced.outcome_bind, own]
  cases (compileFile fs overlay path).outcome with
  | error failure => rfl
  | ok columns =>
    show Traced.outcome (if table.extraColumns.isEmpty then pure columns
      else pure (columns ++ ", " ++ Text.join ", " table.extraColumns)) = .ok _
    simp only [Text.append_flatMap_comma]
    split <;> rfl

/-- The statement of a requested table is made of the columns that its file compiles to. -/
theorem statement_outcome (fs : FileSystem) (table : TableRequest) (path : Path)
    (overlay : Option Schema.Overlay) :
    ((table.definition path overlay).statement fs).outcome =
      table.statement <$> (compileFile fs overlay path).outcome := by
  have partitions : (table.definition path overlay).partitionClause = table.partitionClause := by
    simp [TableDefinition.partitionClause, partitionClause, definition]
  have place (rest : Text) :
      "LOCATION '" ++ ((table.definition path overlay).location ++ rest) =
        "LOCATION 's3://" ++
          (table.bucket ++ ("/" ++ (table.bucketPrefix ++ (table.name ++ rest)))) := by
    simp only [TableDefinition.location, definition, List.append_assoc]
    rfl
  have properties :
      "' TBLPROPERTIES (" ++ ((table.definition path overlay).propertyList ++ Text.ofString ")") =
        "' TBLPROPERTIES ('table_type'='ICEBERG', 'format'='parquet', " ++
          "'write_compression'='snappy')" := by
    simp [TableDefinition.propertyList, TableDefinition.defaultProperties, definition, Text.join,
      Text.ofString, List.intercalate]
  have name : (table.definition path overlay).tableName = table.name := rfl
  rw [TableDefinition.statement, Traced.outcome_bind, columnList_outcome]
  cases (compileFile fs overlay path).outcome with
  | error failure => rfl
  | ok columns =>
    simp only [ok_map, ok_bind, Traced.outcome_pure, statement, List.append_assoc, name, partitions,
      place, properties]

end TableRequest

namespace Request

variable {fs : FileSystem} {source : Source} {table : TableRequest} {path : Path}
  {overlay : Option Schema.Overlay}

/-- The definition of a requested table is accepted exactly if its name and its bucket are in order.
-/
theorem ofJson_definitionOf_eq_ok_iff {definition : TableDefinition} (normal : path.IsNormal)
    (loaded : Mapping.load fs source.mapping = .ok overlay) :
    TableDefinition.ofJson (definitionOf table path overlay) = .ok definition ↔
      table.IsNamed ∧ definition = table.definition path overlay := by
  have pathRead : Path.ofText path.toText = path := Path.ofText_toText normal
  have accepted (named : table.IsNamed) :
      TableDefinition.ofJson (definitionOf table path overlay) =
        .ok (table.definition path overlay) := by
    refine TableDefinition.ofJson_object_eq_ok_iff.mpr ⟨?_, rfl⟩
    exact {
      tableName := Check.filledText_eq_ok_iff.mpr ⟨named.name, rfl⟩
      bucketName := Check.filledText_eq_ok_iff.mpr ⟨named.bucket, rfl⟩
      bucketPrefix := rfl
      columns := rfl
      schemaFile := congrArg (fun file => Except.ok (some file)) pathRead
      mapping := TableDefinition.nullable_mappingValue_eq_ok_iff.mpr
        ⟨Mapping.isObject_of_load loaded, rfl⟩
      extraColumns := Check.texts_eq_ok table.extraColumns
      partitionedBy := Check.texts_eq_ok table.partitions
      tableProperties := rfl }
  constructor
  · intro given
    obtain ⟨made, -⟩ := TableDefinition.ofJson_object_eq_ok_iff.mp given
    obtain ⟨name, -⟩ := (Check.filledText_eq_ok_iff (t := table.name)).mp made.tableName
    obtain ⟨bucket, -⟩ := (Check.filledText_eq_ok_iff (t := table.bucket)).mp made.bucketName
    have named : table.IsNamed := ⟨name, bucket⟩
    exact ⟨named, Except.ok.inj (given.symm.trans (accepted named))⟩
  · rintro ⟨named, rfl⟩
    exact accepted named

end Request

end TableDdl
