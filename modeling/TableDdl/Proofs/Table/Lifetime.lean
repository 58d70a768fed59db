import TableDdl.Proofs.Document.Refusal
import TableDdl.Table.Statement

/-!
# The life of a table definition

A definition is checked when it is made of a value, and never again: its fields may be given any
values of their types. So what was checked holds of a later definition exactly as far as the values
that were given last allow it, and the statement follows the definition as it is by then
(`definition_follows_assignments`, `cleared_definition_is_unsound`).
-/

namespace TableDdl.TableDefinition

open Outcome

variable {input : Json} {definition : TableDefinition} {fs : FileSystem}

/-! ## What is checked at first -/

/-- What the checks of a new definition leave to rely on: the table and the bucket have a name, and
the columns have a source. -/
structure IsSound (definition : TableDefinition) : Prop where
  tableName : definition.tableName ≠ []
  bucketName : definition.bucketName ≠ []
  source : ¬ (definition.columns = none ∧ definition.schemaFile = none)

theorem ne_nil_of_required {ms : Json.Members} {name : String} {t : Text}
    (passed : Check.required ms name Check.filledText = .ok t) : t ≠ [] := by
  rw [Check.required, Check.field] at passed
  split at passed
  · rename_i value _
    cases value with
    | text given =>
      obtain ⟨⟨nonempty, -⟩, rfl⟩ := Check.filledText_eq_ok_iff.mp passed
      exact nonempty
    | _ => cases passed
  · cases passed

theorem isSound_of_ofJson (accepted : ofJson input = .ok definition) : definition.IsSound := by
  cases input with
  | object ms =>
    obtain ⟨made, present⟩ := ofJson_object_eq_ok_iff.mp accepted
    refine ⟨ne_nil_of_required made.tableName, ne_nil_of_required made.bucketName, ?_⟩
    rintro ⟨noColumns, noFile⟩
    rw [noColumns, noFile] at present
    cases present
  | _ => cases accepted

/-! ## Steps -/

/-- A step in the life of a definition: a field is given a new value, or the statement is made with
the files as they are by then. -/
inductive Step where
  | assign (assignment : Assignment)
  | generate (fs : FileSystem)

/-- The definition after a step. -/
def after (definition : TableDefinition) : Step → TableDefinition
  | .assign assignment => definition.assign assignment
  | .generate _ => definition

/-- The definition after some steps. -/
def afterAll (definition : TableDefinition) (steps : List Step) : TableDefinition :=
  steps.foldl after definition

/-- A field of a definition: its value, and the value that an assignment gives to it. An assignment
to another field leaves it as it is. -/
structure Field (α : Type) where
  get : TableDefinition → α
  given? : Assignment → Option α
  get_assign : ∀ definition assignment,
    get (definition.assign assignment) = (given? assignment).getD (get definition)

namespace Field

/-! The fields, in the order of the structure. -/

def tableName : Field Text where
  get := TableDefinition.tableName
  given? := fun
    | .tableName value => some value
    | _ => none
  get_assign _ assignment := by cases assignment <;> rfl

def bucketName : Field Text where
  get := TableDefinition.bucketName
  given? := fun
    | .bucketName value => some value
    | _ => none
  get_assign _ assignment := by cases assignment <;> rfl

def bucketPrefix : Field Text where
  get := TableDefinition.bucketPrefix
  given? := fun
    | .bucketPrefix value => some value
    | _ => none
  get_assign _ assignment := by cases assignment <;> rfl

def columns : Field (Option Text) where
  get := TableDefinition.columns
  given? := fun
    | .columns value => some value
    | _ => none
  get_assign _ assignment := by cases assignment <;> rfl

def schemaFile : Field (Option Path) where
  get := TableDefinition.schemaFile
  given? := fun
    | .schemaFile value => some value
    | _ => none
  get_assign _ assignment := by cases assignment <;> rfl

def mapping : Field (Option Schema.Overlay) where
  get := TableDefinition.mapping
  given? := fun
    | .mapping value => some value
    | _ => none
  get_assign _ assignment := by cases assignment <;> rfl

def extraColumns : Field (List Text) where
  get := TableDefinition.extraColumns
  given? := fun
    | .extraColumns value => some value
    | _ => none
  get_assign _ assignment := by cases assignment <;> rfl

def partitionedBy : Field (List Text) where
  get := TableDefinition.partitionedBy
  given? := fun
    | .partitionedBy value => some value
    | _ => none
  get_assign _ assignment := by cases assignment <;> rfl

def tableProperties : Field (List (Text × Text)) where
  get := TableDefinition.tableProperties
  given? := fun
    | .tableProperties value => some value
    | _ => none
  get_assign _ assignment := by cases assignment <;> rfl

variable {α : Type} (field : Field α) (definition : TableDefinition) (steps : List Step)

/-- The value that a step gives to a field. -/
def givenBy? : Step → Option α
  | .assign assignment => field.given? assignment
  | .generate _ => none

/-- The value that some steps give to a field last. -/
def lastGiven? : Option α :=
  steps.reverse.findSome? field.givenBy?

/-- The value that is last given to a field, or the first one if none is given. -/
def valueAfter : α :=
  (field.lastGiven? steps).getD (field.get definition)

theorem get_after (step : Step) :
    field.get (definition.after step) = (field.givenBy? step).getD (field.get definition) := by
  cases step with
  | assign assignment => exact field.get_assign definition assignment
  | generate fs => rfl

/-- A field holds the value that was given to it last. -/
theorem get_afterAll :
    field.get (definition.afterAll steps) = field.valueAfter definition steps := by
  induction steps generalizing definition with
  | nil => rfl
  | cons step rest ih =>
    have last : field.lastGiven? (step :: rest) =
        (field.lastGiven? rest).or (field.givenBy? step) := by
      rw [lastGiven?, List.reverse_cons, List.findSome?_append, List.findSome?_singleton]
      rfl
    calc field.get ((definition.after step).afterAll rest)
        = (field.lastGiven? rest).getD (field.get (definition.after step)) := ih _
      _ = (field.lastGiven? rest).getD ((field.givenBy? step).getD (field.get definition)) := by
        rw [get_after]
      _ = field.valueAfter definition (step :: rest) := by
        rw [valueAfter, last, Option.getD_or]

/-- A field holds a value that it did not hold at first exactly if this value was given last. -/
theorem valueAfter_eq_iff {a : α} (differs : field.get definition ≠ a) :
    field.valueAfter definition steps = a ↔ field.lastGiven? steps = some a := by
  rw [valueAfter]
  cases field.lastGiven? steps with
  | none => exact ⟨fun same => absurd same differs, nofun⟩
  | some given => exact (Option.some_inj).symm

end Field

/-- After any steps each field holds the value that was given to it last. -/
theorem afterAll_eq (definition : TableDefinition) (steps : List Step) :
    definition.afterAll steps =
      { tableName := Field.tableName.valueAfter definition steps
        bucketName := Field.bucketName.valueAfter definition steps
        bucketPrefix := Field.bucketPrefix.valueAfter definition steps
        columns := Field.columns.valueAfter definition steps
        schemaFile := Field.schemaFile.valueAfter definition steps
        mapping := Field.mapping.valueAfter definition steps
        extraColumns := Field.extraColumns.valueAfter definition steps
        partitionedBy := Field.partitionedBy.valueAfter definition steps
        tableProperties := Field.tableProperties.valueAfter definition steps } := by
  simp only [← Field.get_afterAll]
  rfl

/-- A name is taken from a sound definition only by an empty one that is given last, and the source
of the columns only by nulls. -/
theorem IsSound.afterAll_iff (sound : definition.IsSound) (steps : List Step) :
    (definition.afterAll steps).IsSound ↔
      Field.tableName.lastGiven? steps ≠ some [] ∧ Field.bucketName.lastGiven? steps ≠ some [] ∧
        ¬ (Field.columns.valueAfter definition steps = none ∧
          Field.schemaFile.valueAfter definition steps = none) := by
  have table := Field.tableName.valueAfter_eq_iff definition steps sound.tableName
  have bucket := Field.bucketName.valueAfter_eq_iff definition steps sound.bucketName
  rw [Ne, ← table, Ne, ← bucket]
  simp only [← Field.get_afterAll]
  exact ⟨fun later => ⟨later.tableName, later.bucketName, later.source⟩,
    fun ⟨name, bucket, source⟩ => ⟨name, bucket, source⟩⟩

/-! ## Fields by name -/

theorem set_of_mem {entry : String × (Json → Assignment)} (mem : entry ∈ assignments)
    (definition : TableDefinition) (value : Json) :
    definition.set (Text.ofString entry.1) value = .ok (definition.assign (entry.2 value)) := by
  revert entry
  simp only [assignments, List.forall_mem_cons]
  exact ⟨rfl, rfl, rfl, rfl, rfl, rfl, rfl, rfl, rfl, nofun⟩

/-! ## Statements -/

theorem compileFile_ne_noColumnSource (fs : FileSystem) (overlay : Option Schema.Overlay)
    (path : Path) : (compileFile fs overlay path).outcome ≠ .error .noColumnSource := by
  intro failed
  cases read : fs.read path with
  | error e =>
    rw [compileFile, Traced.outcome_bind, read] at failed
    cases failed
  | ok bytes =>
    rw [compileFile_outcome read, Document.compile_outcome, map_eq_error_iff] at failed
    rcases Document.fault_or_longInteger_of_buildRecord failed with ⟨e, same, -⟩ | ⟨t, n, same, -⟩
    · cases same
    · cases same

theorem ownColumns_eq_noColumnSource_iff :
    (definition.ownColumns fs).outcome = .error .noColumnSource ↔
      definition.columns = none ∧ definition.schemaFile = none := by
  rw [ownColumns]
  split
  · simp [*]
  · simp [*, compileFile_ne_noColumnSource]
  · simp [*, Traced.fail]

/-- A statement is refused exactly if its columns are, and for the same reason. -/
theorem statement_eq_error_iff {failure : Failure} :
    (definition.statement fs).outcome = .error failure ↔
      (definition.ownColumns fs).outcome = .error failure := by
  rw [statement, columnList]
  simp only [Traced.outcome_bind]
  cases (definition.ownColumns fs).outcome with
  | error e => rfl
  | ok own => simp only [ok_bind]; split <;> simp [ok_bind]

/-- The statement follows the definition, sound or not. It is refused for want of a source exactly
if both sources are null, it is always made if columns are given, and it shows the names of the
table and of the bucket as they are in the definition. -/
structure StatementFollows (definition : TableDefinition) (fs : FileSystem) : Prop where
  noSource : (definition.statement fs).outcome = .error .noColumnSource ↔
    definition.columns = none ∧ definition.schemaFile = none
  given : definition.columns ≠ none → ∃ t, (definition.statement fs).outcome = .ok t
  table : ∀ t, (definition.statement fs).outcome = .ok t →
    ("CREATE TABLE IF NOT EXISTS " ++ definition.tableName ++ " (" : Text) <+: t
  place : ∀ t, (definition.statement fs).outcome = .ok t →
    ("LOCATION 's3://" ++ definition.bucketName ++ "/" ++ definition.bucketPrefix ++
      definition.tableName ++ "' " : Text) <:+: t

theorem statementFollows (definition : TableDefinition) (fs : FileSystem) :
    definition.StatementFollows fs where
  noSource := statement_eq_error_iff.trans ownColumns_eq_noColumnSource_iff
  given columnsGiven := by
    obtain ⟨columns, own⟩ := Option.ne_none_iff_exists'.mp columnsGiven
    cases made : (definition.statement fs).outcome with
    | ok t => exact ⟨t, rfl⟩
    | error failure =>
      rw [statement_eq_error_iff, ownColumns, own] at made
      cases made
  table t made := by
    rw [statement, Traced.outcome_bind] at made
    obtain ⟨columns, -, made⟩ := bind_eq_ok_iff.mp made
    cases made
    simp only [List.append_assoc, List.prefix_append_right_inj]
    exact List.prefix_append _ _
  place t made := by
    rw [statement, Traced.outcome_bind] at made
    obtain ⟨columns, -, made⟩ := bind_eq_ok_iff.mp made
    cases made
    refine ⟨"CREATE TABLE IF NOT EXISTS " ++ definition.tableName ++ " (" ++ columns ++ ") " ++
      definition.partitionClause, Text.ofString "TBLPROPERTIES (" ++ definition.propertyList ++ ")",
      ?_⟩
    simp only [location, List.append_assoc]
    rfl

/-! ## Whole lives -/

/-- A new definition is sound. A new value for a field is never refused, so after any steps each
field holds the value that was given to it last; the definition is still sound exactly if these
values leave it so, and the statement follows the definition all the same. -/
theorem definition_follows_assignments (accepted : ofJson input = .ok definition)
    (steps : List Step) :
    definition.IsSound ∧
      (∀ entry ∈ assignments, ∀ value,
        (definition.afterAll steps).set (Text.ofString entry.1) value =
          .ok (definition.afterAll (steps ++ [.assign (entry.2 value)]))) ∧
      definition.afterAll steps =
        { tableName := Field.tableName.valueAfter definition steps
          bucketName := Field.bucketName.valueAfter definition steps
          bucketPrefix := Field.bucketPrefix.valueAfter definition steps
          columns := Field.columns.valueAfter definition steps
          schemaFile := Field.schemaFile.valueAfter definition steps
          mapping := Field.mapping.valueAfter definition steps
          extraColumns := Field.extraColumns.valueAfter definition steps
          partitionedBy := Field.partitionedBy.valueAfter definition steps
          tableProperties := Field.tableProperties.valueAfter definition steps } ∧
      ((definition.afterAll steps).IsSound ↔
        Field.tableName.lastGiven? steps ≠ some [] ∧ Field.bucketName.lastGiven? steps ≠ some [] ∧
          ¬ (Field.columns.valueAfter definition steps = none ∧
            Field.schemaFile.valueAfter definition steps = none)) ∧
      ∀ fs, (definition.afterAll steps).StatementFollows fs := by
  have sound := isSound_of_ofJson accepted
  refine ⟨sound, fun entry mem value => ?_, afterAll_eq definition steps,
    sound.afterAll_iff steps, statementFollows _⟩
  rw [set_of_mem mem, afterAll, afterAll, List.foldl_append]
  rfl

/-- A table with one given column. -/
def givenTable : Json.Members :=
  [("table_name", .text "t"), ("bucket_name", .text "b"), ("columns", .text "id string")]

/-- The definition of the table with one given column. -/
def givenDefinition : TableDefinition where
  tableName := "t"
  bucketName := "b"
  bucketPrefix := []
  columns := some "id string"
  schemaFile := none
  mapping := none
  extraColumns := []
  partitionedBy := []
  tableProperties := defaultProperties

theorem givenTable_accepted : ofJson (.object givenTable) = .ok givenDefinition := rfl

theorem cleared_definition_is_unsound :
    ofJson (.object givenTable) = .ok givenDefinition ∧
      givenDefinition.set "columns" .null =
        .ok (givenDefinition.afterAll [.assign (.columns none)]) ∧
      ¬ (givenDefinition.afterAll [.assign (.columns none)]).IsSound ∧
      ((givenDefinition.afterAll [.assign (.columns none)]).statement ⟨[], []⟩).outcome =
        .error .noColumnSource ∧
      givenDefinition.set "table_name" (.text []) =
        .ok (givenDefinition.afterAll [.assign (.tableName [])]) ∧
      ∃ t, ((givenDefinition.afterAll [.assign (.tableName [])]).statement ⟨[], []⟩).outcome =
          .ok t ∧
        Text.ofString "CREATE TABLE IF NOT EXISTS  (" <+: t ∧
        Text.ofString "LOCATION 's3://b/' " <:+: t := by
  refine ⟨givenTable_accepted, rfl, fun sound => sound.source ⟨rfl, rfl⟩, rfl, rfl, ?_⟩
  have follows := statementFollows (givenDefinition.afterAll [.assign (.tableName [])]) ⟨[], []⟩
  obtain ⟨t, made⟩ := follows.given nofun
  exact ⟨t, made, follows.table t made, follows.place t made⟩

/-- The steps that take the columns and then the name away, with an attempt at the statement between
them. -/
def clearingSteps : List Step :=
  [.assign (.columns none), .generate ⟨[], []⟩, .assign (.tableName [])]

theorem clearingSteps_leave_nothing :
    ofJson (.object givenTable) = .ok givenDefinition ∧
      ¬ (givenDefinition.afterAll clearingSteps).IsSound ∧
      ((givenDefinition.afterAll clearingSteps).statement ⟨[], []⟩).outcome =
        .error .noColumnSource := by
  obtain ⟨-, -, -, stillSound, follows⟩ :=
    definition_follows_assignments givenTable_accepted clearingSteps
  refine ⟨givenTable_accepted, fun sound => ?_, (follows ⟨[], []⟩).noSource.mpr ⟨rfl, rfl⟩⟩
  exact (stillSound.mp sound).1 rfl

end TableDdl.TableDefinition
