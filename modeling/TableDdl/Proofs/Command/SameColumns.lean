import TableDdl.Proofs.Platform.Plain

/-!
# The list of columns and the statement agree

The command that lists columns and the one that creates a table compile the same columns, although
they go different ways: of the same files and settings either both make something or neither does,
and the list stands in the statement. What is made is then echoed, where the encoding of what is
echoed takes it, or written to a file. In a file the statement is kept as it is; what is echoed may
have lost control sequences.
-/

namespace TableDdl

open Json Outcome

/-- `before.Saves after encoding path t`: a file was written, so that it holds the text in an
encoding and nothing else has changed. -/
structure FileSystem.Saves (before after : FileSystem) (encoding : Encoding) (path : Path)
    (t : Text) : Prop where
  content : ∃ bytes, encoding.encode t = .ok bytes ∧ after.read path = .ok bytes
  others : ∃ names, before.locate path = .ok names ∧
    ∀ other ≠ names, entry? after other = entry? before other

/-- The run succeeded and some bytes reached standard output. -/
def Outcome.Prints (outcome : Outcome) (bytes : List UInt8) : Prop :=
  outcome.status = 0 ∧ outcome.stdout = bytes

namespace Request

variable {kit : Toolkit} {s : Surroundings} {request : Request} {source : Source}
  {table : TableRequest} {output : Option Path} {path : Path} {t : Text} {bytes : List UInt8}

/-! ## Printing and saving -/

/-- A run without a file for what it makes leaves all files as they are, whether it succeeds or not.
-/
theorem files_run_of_none (none : request.output? = none) :
    (request.run kit s).files = s.files := by
  rcases run_cases kit s request with ⟨-, -, -, files⟩ | ⟨product, -, files, -⟩
  · exact files
  · rw [files, files_deliver_of_none none]

/-- What is printed of a text. -/
theorem printed_eq_ok_iff :
    (print kit s t).printed = .ok bytes ↔ (kit.echoEncoding s).encode (kit.echo s t.line) = .ok bytes :=
  mapError_eq_ok_iff

/-- A run that succeeds has saved what was made. -/
theorem saves_of_status {output : Output} (given : request.output? = some output)
    (made : request.made kit s = .ok (.text t)) (succeeded : (request.run kit s).status = 0) :
    s.files.Saves (request.run kit s).files s.textFiles output.path t.line := by
  obtain ⟨product, bytes, made', printed⟩ := status_run_eq_zero_iff.mp succeeded
  cases made.symm.trans made'
  rw [deliver_text_some given] at printed
  rw [files_run_of_made made, deliver_text_some given]
  rcases save_cases kit s output t with
    ⟨e, -, saved⟩ | ⟨opened, complaint, -, -, saved⟩ | ⟨bytes, written, encoded, writing, saved⟩
  · rw [saved] at printed
    cases printed
  · rw [saved] at printed
    cases printed
  · rw [saved]
    obtain ⟨content, others⟩ := FileSystem.read_of_write writing
    exact ⟨⟨bytes, encoded, content⟩, others⟩

/-! ## The list -/

/-- A list of columns is echoed as it is. -/
theorem echo_list (strips : kit.StripsEchoes s) {list : Text} (lists : Lists kit s source list) :
    kit.echo s list.line = list.line := by
  apply strips.plain
  rw [Text.line, List.mem_append, not_or]
  exact ⟨(isPlain_of_lists lists).escape_notMem, by decide⟩

theorem prints_columns_iff (strips : kit.StripsEchoes s) :
    ((columns source none).run kit s).Prints bytes ↔
      ∃ list, Lists kit s source list ∧ (kit.echoEncoding s).encode list.line = .ok bytes := by
  rw [Outcome.Prints, run_succeeds_iff]
  constructor
  · intro prints
    obtain ⟨product, made, printed⟩ := prints
    obtain ⟨list, rfl, lists⟩ := exists_lists_of_made made
    refine ⟨list, lists, ?_⟩
    rw [deliver_text_none rfl, printed_eq_ok_iff, echo_list strips lists] at printed
    exact printed
  · intro listed
    obtain ⟨list, lists, encoded⟩ := listed
    refine ⟨.text list, lists, ?_⟩
    rw [deliver_text_none rfl, printed_eq_ok_iff, echo_list strips lists]
    exact encoded

/-! ## The statement -/

theorem prints_createTable_iff (normal : source.IsNormal) (named : table.IsNamed) :
    ((createTable source table none).run kit s).Prints bytes ↔
      ∃ list, Lists kit s source list ∧
        (kit.echoEncoding s).encode (kit.echo s (table.statement list).line) = .ok bytes := by
  rw [Outcome.Prints, run_succeeds_iff]
  constructor
  · intro prints
    obtain ⟨product, made, printed⟩ := prints
    obtain ⟨-, list, lists, rfl⟩ := (made_createTable_eq_ok_iff normal).mp made
    exact ⟨list, lists, printed_eq_ok_iff.mp printed⟩
  · intro listed
    obtain ⟨list, lists, encoded⟩ := listed
    exact ⟨_, (made_createTable_eq_ok_iff normal).mpr ⟨named, list, lists, rfl⟩,
      printed_eq_ok_iff.mpr encoded⟩

/-- A statement without an escape in its texts has none. -/
theorem escape_notMem_statement {list : Text} (plain : list.IsPlain)
    (noEscape : ∀ t ∈ table.texts, Text.escape ∉ t) :
    Text.escape ∉ (table.statement list).line := by
  have other : ∀ p ∈ table.statement list, p ≠ Text.escape := by
    refine TableRequest.forall_mem_statement ?visible ?own ?listed
    case visible =>
      rintro p visible rfl
      exact absurd visible (by decide)
    case own =>
      rintro t mem p inside rfl
      exact noEscape t mem inside
    case listed =>
      rintro p inside rfl
      exact plain.escape_notMem inside
  rw [Text.line, List.mem_append, not_or]
  exact ⟨fun inside => other _ inside rfl, by decide⟩

/-- How the runs of the two commands go together that read the same files, with and without a file
for what they make. -/
structure SameColumns (kit : Toolkit) (s : Surroundings) (source : Source) (table : TableRequest) :
    Prop where
  /-- One command succeeds exactly if there is a list and the encoding of what is echoed takes its
  line, which is then printed. -/
  columns : ∀ bytes, ((columns source none).run kit s).Prints bytes ↔
    ∃ list, Lists kit s source list ∧ (kit.echoEncoding s).encode list.line = .ok bytes
  /-- The other one succeeds exactly if there is the same list and the encoding takes what is echoed
  of the line of the statement, in which the list stands. -/
  createTable : ∀ bytes, ((createTable source table none).run kit s).Prints bytes ↔
    ∃ list, Lists kit s source list ∧
      (kit.echoEncoding s).encode (kit.echo s (table.statement list).line) = .ok bytes
  /-- Where the encoding takes every row of characters, both succeed or both fail. -/
  status : (∀ t, IsScalar t → (kit.echoEncoding s).Takes t) →
    (((Request.columns source none).run kit s).status = 0 ↔
      ((Request.createTable source table none).run kit s).status = 0)
  /-- The line of the statement is echoed as it is, if no text of the table holds an escape. -/
  echoed : ∀ list, Lists kit s source list → (∀ t ∈ table.texts, Text.escape ∉ t) →
    kit.echo s (table.statement list).line = (table.statement list).line
  /-- What is printed goes to no file. -/
  files : ((Request.columns source none).run kit s).files = s.files ∧
    ((Request.createTable source table none).run kit s).files = s.files
  /-- A list that is saved is the one that is printed otherwise. -/
  savedList : ∀ path, ((Request.columns source (some path)).run kit s).status = 0 →
    ∃ list, Lists kit s source list ∧
      s.files.Saves ((Request.columns source (some path)).run kit s).files s.textFiles path
        list.line
  /-- A statement that is saved is the one that is echoed otherwise. -/
  savedStatement : ∀ path,
    ((Request.createTable source table (some path)).run kit s).status = 0 →
      ∃ list, Lists kit s source list ∧
        s.files.Saves ((Request.createTable source table (some path)).run kit s).files s.textFiles
          path (table.statement list).line

/-- The two commands compile the same columns, for every table with a name and a bucket whose texts
are rows of characters, in all surroundings and with all packages that only strip what is echoed. -/
theorem commands_compile_same_columns (strips : kit.StripsEchoes s) (normal : source.IsNormal)
    (name : table.name ≠ []) (bucket : table.bucket ≠ [])
    (scalar : ∀ t ∈ table.texts, IsScalar t) : SameColumns kit s source table := by
  have named : table.IsNamed := by
    refine ⟨⟨name, scalar _ ?_⟩, ⟨bucket, scalar _ ?_⟩⟩ <;> simp [TableRequest.texts]
  have listed (bytes : List UInt8) := @prints_columns_iff kit s source bytes strips
  have stated (bytes : List UInt8) := @prints_createTable_iff kit s source table bytes normal named
  refine {
    columns := listed
    createTable := stated
    status := ?status
    echoed := fun list lists noEscape =>
      strips.plain _ (escape_notMem_statement (isPlain_of_lists lists) noEscape)
    files := ⟨files_run_of_none rfl, files_run_of_none rfl⟩
    savedList := ?savedList
    savedStatement := ?savedStatement }
  case status =>
    intro takes
    constructor
    · intro succeeded
      obtain ⟨list, lists, -⟩ := (listed _).mp ⟨succeeded, rfl⟩
      have statement := isScalar_statement scalar (isPlain_of_lists lists)
      obtain ⟨bytes, encoded⟩ := takes (kit.echo s (table.statement list).line) fun p mem =>
        Text.isScalar_line statement p ((strips.sublist _).subset mem)
      exact ((stated bytes).mpr ⟨list, lists, encoded⟩).1
    · intro succeeded
      obtain ⟨list, lists, -⟩ := (stated _).mp ⟨succeeded, rfl⟩
      obtain ⟨bytes, encoded⟩ :=
        takes list.line (Text.isScalar_line (isPlain_of_lists lists).isScalar)
      exact ((listed bytes).mpr ⟨list, lists, encoded⟩).1
  case savedList =>
    intro path succeeded
    obtain ⟨product, -, made, -⟩ := status_run_eq_zero_iff.mp succeeded
    obtain ⟨list, rfl, lists⟩ := exists_lists_of_made made
    exact ⟨list, lists, saves_of_status rfl made succeeded⟩
  case savedStatement =>
    intro path succeeded
    obtain ⟨product, -, made, -⟩ := status_run_eq_zero_iff.mp succeeded
    obtain ⟨-, list, lists, rfl⟩ := (made_createTable_eq_ok_iff normal).mp made
    exact ⟨list, lists, saves_of_status rfl made succeeded⟩

/-! ## Statements that are not printed, or printed otherwise -/

/-- A table whose bucket would make a terminal turn red. -/
def redTable : TableRequest := ⟨"t", "b\x1b[31mx", [], [], []⟩

/-- A command line that asks for the statement of this table. -/
def redArguments : List Text := ["create-table", "t", "s", "-b", "b\x1b[31mx"]

/-- A table whose name is not in Latin-1. -/
def strokedTable : TableRequest := ⟨"ł", "b", [], [], []⟩

theorem isScalar_redTable : ∀ t ∈ redTable.texts, IsScalar t := by
  unfold IsScalar
  decide

theorem isNamed_redTable : redTable.IsNamed where
  name := ⟨List.cons_ne_nil _ _, isScalar_redTable _ List.mem_cons_self⟩
  bucket := ⟨List.cons_ne_nil _ _, isScalar_redTable _ (List.mem_cons_of_mem _ List.mem_cons_self)⟩

theorem isNamed_strokedTable : strokedTable.IsNamed where
  name := ⟨List.cons_ne_nil _ _, .ofString "ł"⟩
  bucket := ⟨List.cons_ne_nil _ _, .ofString "b"⟩

/-- What is printed of the statement of the first table. -/
def printedRed : String :=
  "CREATE TABLE IF NOT EXISTS t (id string) LOCATION 's3://bx/t' " ++
    "TBLPROPERTIES ('table_type'='ICEBERG', 'format'='parquet', 'write_compression'='snappy')\n"

theorem echo_redTable (s : Surroundings) :
    Toolkit.usual.echo s (redTable.statement "id string").line = Text.ofString printedRed := by
  show Text.withoutControlSequences _ = _
  decide +kernel

/-- The statement of one table is not printed as it is, so the line is not made of the text that the
other command prints. The statement of another table is not printed at all where standard output
does not take its name, while the list is. -/
theorem statements_are_printed_otherwise :
    (ofArguments? redArguments = some (createTable oneColumnSource redTable none) ∧
      ((columns oneColumnSource none).run .usual oneColumnSurroundings).Prints
        (Utf8.encode "id string\n".toList) ∧
      ((createTable oneColumnSource redTable none).run .usual oneColumnSurroundings).Prints
        (Utf8.encode printedRed.toList) ∧
      (redTable.statement "id string").line ≠ Text.ofString printedRed) ∧
    ((columns oneColumnSource none).run .usual latinSurroundings).status = 0 ∧
      ((createTable oneColumnSource strokedTable none).run .usual latinSurroundings).status ≠
        0 := by
  have strips (s : Surroundings) : Toolkit.usual.StripsEchoes s :=
    Toolkit.stripsEchoes_plain 80 none s
  refine ⟨⟨by decide +kernel, ?listed, ?stated, by decide +kernel⟩, ?taken, ?refused⟩
  case listed =>
    exact (prints_columns_iff (strips _)).mpr
      ⟨_, lists_oneColumn, Encoding.encode_utf8_ofString "id string\n"⟩
  case stated =>
    refine (prints_createTable_iff isNormal_oneColumnSource isNamed_redTable).mpr
      ⟨_, lists_oneColumn, ?_⟩
    rw [echo_redTable]
    exact Encoding.encode_utf8_ofString printedRed
  case taken =>
    exact ((prints_columns_iff (strips _)).mpr ⟨_, lists_oneColumn_latin, rfl⟩).1
  case refused =>
    intro succeeded
    obtain ⟨list, lists, encoded⟩ :=
      (prints_createTable_iff isNormal_oneColumnSource isNamed_strokedTable).mp
        ⟨succeeded, rfl⟩
    have same := Product.text.inj (Except.ok.inj (lists_oneColumn_latin.symm.trans lists))
    rw [← same] at encoded
    cases encoded

/-- The two commands compile the same column for the first table, and both succeed, also with a file
for the statement. -/
theorem redTable_compiles_same_columns :
    Toolkit.usual.StripsEchoes oneColumnSurroundings ∧ oneColumnSource.IsNormal ∧
      SameColumns .usual oneColumnSurroundings oneColumnSource redTable ∧
      ((columns oneColumnSource none).run .usual oneColumnSurroundings).status = 0 ∧
      ((createTable oneColumnSource redTable (some (.ofText "o"))).run .usual
        oneColumnSurroundings).status = 0 := by
  have strips : Toolkit.usual.StripsEchoes oneColumnSurroundings :=
    Toolkit.stripsEchoes_plain 80 none oneColumnSurroundings
  have same : SameColumns .usual oneColumnSurroundings oneColumnSource redTable :=
    commands_compile_same_columns strips isNormal_oneColumnSource (by decide) (by decide)
      isScalar_redTable
  have made : (createTable oneColumnSource redTable (some (.ofText "o"))).made .usual
      oneColumnSurroundings = .ok (.text (redTable.statement "id string")) :=
    (made_createTable_eq_ok_iff isNormal_oneColumnSource).mpr
      ⟨isNamed_redTable, _, lists_oneColumn, rfl⟩
  obtain ⟨bytes, encoded⟩ := Encoding.takes_utf8 (Text.isScalar_line
    (isScalar_statement isScalar_redTable (isPlain_of_lists lists_oneColumn)))
  have writing : oneColumnSurroundings.files.write (.ofText "o") bytes =
      .ok (oneColumnSurroundings.files.put [FileName.ofText "o"] (.file bytes)) := rfl
  have told : Toolkit.usual.display oneColumnSurroundings
      (savedText ⟨.ofText "o", "CREATE TABLE statement"⟩) =
        .ok (Utf8.encode "✓ CREATE TABLE statement written to o\n".toList) := by
    have shown : Layout.printed 80 ("✓" ++ Markup.Emoji.replace
        (" " ++ Text.ofString "CREATE TABLE statement" ++ " written to " ++
          (Path.ofText "o").toText)) =
        Text.ofString "✓ CREATE TABLE statement written to o\n" := by
      decide +kernel
    rw [Toolkit.usual, Toolkit.display_savedText none _ (by decide) (by decide), shown]
    exact mapError_eq_ok_iff.mpr (Encoding.encode_utf8_ofString _)
  have printed := (same.columns _).mpr
    ⟨_, lists_oneColumn, Encoding.encode_utf8_ofString "id string\n"⟩
  exact ⟨strips, isNormal_oneColumnSource, same, printed.1,
    status_run_of_save rfl made encoded writing told⟩

end Request

end TableDdl
