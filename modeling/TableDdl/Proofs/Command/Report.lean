import TableDdl.Proofs.Command.Reading
import TableDdl.Proofs.Document.Refusal
import TableDdl.Proofs.Platform.Plain

/-!
# How the commands report failures

A failure that a command expects is reported: its wording is escaped and shown after a label on
standard error. Any other failure breaks the run off. The command that creates a table expects
nearly all failures, the other two only those of documents and of the operating system, so they do
not report alike (`failures_are_reported_or_break_off`, `misnamedFormat_is_reported_by_one`).
-/

namespace TableDdl

open Json Outcome

/-! ## Kinds of failures -/

namespace Failure

/-- The test for a failure that every command reports: a fault of a document or of a mapping, a file
that cannot be read or written, or another error of the operating system. -/
def IsCommon : Failure → Prop
  | .schema _ | .file (.onPath _ _) | .package (.system _ _) => True
  | _ => False

/-- The test for a failure that no command expects: a name of a level that stands for no number, or
an error of a package that is neither about a value nor of the operating system. -/
def IsUnforeseen : Failure → Prop
  | .unusableLevel _ | .package (.other _) => True
  | _ => False

/-- The test for a failure that a run can end with: every one but those of a table that is given by
itself and not by a command. -/
def IsOfRun : Failure → Prop
  | .noColumnSource | .unknownField _ _ => False
  | _ => True

theorem IsFault.isOfRun {classes : Schema.FaultClass → Prop} {failure : Failure}
    (fault : failure.IsFault classes) : failure.IsOfRun := by
  obtain ⟨e, rfl, -⟩ := fault
  trivial

theorem IsLongIntegerOf.isOfRun {t : Text} {failure : Failure}
    (long : failure.IsLongIntegerOf t) : failure.IsOfRun := by
  obtain ⟨n, rfl, -⟩ := long
  trivial

end Failure

/-! ## Endings -/

namespace Request

variable {kit : Toolkit} {s : Surroundings} {request : Request} {source : Source}
  {table : TableRequest} {output : Option Path} {failure : Failure}

/-- The run of a request reports a failure on standard error, after what it logs, and nothing else
comes of it. What is reported begins with the label where the packages let labels stand. -/
structure Reports (kit : Toolkit) (s : Surroundings) (request : Request) (failure : Failure) :
    Prop where
  status : (request.run kit s).status = 1
  stdout : (request.run kit s).stdout = []
  unexpected : (request.run kit s).unexpected = none
  stderr : ∃ line, kit.report s (errorText kit failure) = .ok line ∧
    (request.run kit s).stderr = s.stderr (request.logged kit s ++ line) ∧
    (kit.LabelsReports s → Text.ofString "Error: " <+: line)

/-- The run of a request is broken off by a failure that was not expected, and nothing of it is
reported. -/
structure BreaksOff (kit : Toolkit) (s : Surroundings) (request : Request) (failure : Failure) :
    Prop where
  status : (request.run kit s).status = 1
  stdout : (request.run kit s).stdout = []
  unexpected : (request.run kit s).unexpected = some failure
  stderr : (request.run kit s).stderr = s.stderr (request.logged kit s)

/-- A request ends with a failure: it reports the failure if it expects it, and breaks off
otherwise. -/
def EndsWith (kit : Toolkit) (s : Surroundings) (request : Request) (failure : Failure) : Prop :=
  if request.expects failure then request.Reports kit s failure
  else request.BreaksOff kit s failure

theorem endsWith_of_failed (escaped : kit.ReportsEscaped s) {files : FileSystem}
    (ends : request.run kit s =
      request.failed kit s files (request.logged kit s) failure) :
    request.EndsWith kit s failure := by
  obtain ⟨line, reported⟩ := escaped (failure.message kit.explain)
  have reported : kit.report s (errorText kit failure) = .ok line := reported
  have label (labels : kit.LabelsReports s) : Text.ofString "Error: " <+: line := by
    obtain ⟨more, labelled⟩ := labels (failure.message kit.explain)
    cases reported.symm.trans labelled
    exact List.prefix_append _ _
  rw [EndsWith]
  split
  · rename_i expected
    rw [failed, if_pos expected, reported] at ends
    exact ⟨by rw [ends], by rw [ends], by rw [ends], line, reported, by rw [ends], label⟩
  · rename_i unexpected
    rw [failed, if_neg unexpected] at ends
    exact ⟨by rw [ends], by rw [ends], by rw [ends], by rw [ends]⟩

theorem endsWith_of_made (escaped : kit.ReportsEscaped s)
    (made : request.made kit s = .error failure) : request.EndsWith kit s failure := by
  rcases run_eq_cases kit s request with ⟨other, made', ends⟩ | ⟨product, made', -⟩
  · cases made.symm.trans made'
    exact endsWith_of_failed escaped ends
  · cases made.symm.trans made'

/-! ## What a run can fail with -/

theorem isOfRun_of_mapError {α ε : Type} {x : Except ε α} {kind : ε → Failure}
    (failed : x.mapError kind = .error failure) (own : ∀ e, (kind e).IsOfRun) :
    failure.IsOfRun := by
  obtain ⟨e, -, rfl⟩ := mapError_eq_error_iff.mp failed
  exact own e

theorem isOfRun_of_mem_misnamed : ∀ entry ∈ Level.misnamed, entry.2.IsOfRun := by
  unfold Level.misnamed
  simp only [List.forall_mem_cons]
  exact ⟨trivial, trivial, fun _ mem => absurd mem List.not_mem_nil⟩

theorem isOfRun_of_logging {settings : Settings} (failed : settings.logging = .error failure) :
    failure.IsOfRun := by
  rcases bind_eq_error_iff.mp failed with misnamed | ⟨_, _, rest⟩
  · unfold Logging.thresholdOf at misnamed
    dsimp only at misnamed
    split at misnamed
    · rename_i found
      cases misnamed
      exact isOfRun_of_mem_misnamed _ (List.mem_of_find?_eq_some found)
    · split at misnamed <;> cases misnamed
  · cases rest

theorem isOfRun_of_settings (failed : (kit.settings s).2 = .error failure) : failure.IsOfRun := by
  rcases bind_eq_error_iff.mp failed with ungiven | ⟨given, -, refused⟩
  · exact isOfRun_of_mapError ungiven fun _ => trivial
  · exact isOfRun_of_mapError refused fun _ => trivial

theorem isOfRun_of_locateSchema (failed : locateSchema kit s source = .error failure) :
    failure.IsOfRun := by
  rcases bind_eq_error_iff.mp failed with unloaded | ⟨settings, -, failed⟩
  · exact isOfRun_of_settings unloaded
  · rcases bind_eq_error_iff.mp failed with unlogged | ⟨-, -, unfound⟩
    · exact isOfRun_of_logging unlogged
    · exact isOfRun_of_mapError unfound fun _ => trivial

theorem isOfRun_of_mapping {fs : FileSystem} {path : Option Path}
    (failed : Mapping.load fs path = .error failure) : failure.IsOfRun := by
  cases path with
  | none => cases failed
  | some path =>
    rcases bind_eq_error_iff.mp failed with unread | ⟨bytes, -, refused⟩
    · exact isOfRun_of_mapError unread fun _ => trivial
    · rcases Mapping.refusal_of_ofBytes refused with fault | ⟨_, _, long⟩
      · exact fault.isOfRun
      · exact long.isOfRun

theorem isOfRun_of_readSchema {fs : FileSystem} {path : Path}
    (failed : readSchema fs source path = .error failure) : failure.IsOfRun := by
  rcases bind_eq_error_iff.mp failed with unmapped | ⟨overlay, -, failed⟩
  · exact isOfRun_of_mapping unmapped
  · rcases bind_eq_error_iff.mp failed with unread | ⟨bytes, -, refused⟩
    · exact isOfRun_of_mapError unread fun _ => trivial
    · rcases Document.fault_or_longInteger_of_buildRecord refused with fault | ⟨_, long⟩
      · exact fault.isOfRun
      · exact long.isOfRun

/-- A table without a name or a bucket is refused, if the mapping file is not refused before. -/
theorem isOfRun_of_tableStatement {fs : FileSystem} {path : Path} (normal : path.IsNormal)
    (unnamed : ¬ table.IsNamed)
    (failed : (tableStatement fs source table path).outcome = .error failure) :
    failure.IsOfRun := by
  simp only [tableStatement, Traced.outcome_bind, outcome_ofExcept] at failed
  rcases bind_eq_error_iff.mp failed with unmapped | ⟨overlay, loaded, failed⟩
  · exact isOfRun_of_mapping unmapped
  · rcases bind_eq_error_iff.mp failed with refused | ⟨definition, accepted, -⟩
    · exact isOfRun_of_mapError refused fun _ => trivial
    · rw [mapError_eq_ok_iff, ofJson_definitionOf_eq_ok_iff normal loaded] at accepted
      exact absurd accepted.1 unnamed

theorem isOfRun_of_produce {fs : FileSystem} {path : Path} (normal : path.IsNormal)
    (failed : (request.produce fs path).outcome = .error failure) : failure.IsOfRun := by
  by_cases named : request.IsNamed
  · rw [produce_outcome normal named, map_eq_error_iff] at failed
    exact isOfRun_of_readSchema failed
  · cases request with
    | createTable source table output =>
      simp only [produce, Traced.outcome_bind] at failed
      rcases bind_eq_error_iff.mp failed with failed | ⟨t, -, rest⟩
      · exact isOfRun_of_tableStatement normal named failed
      · cases rest
    | _ => exact absurd trivial named

theorem isOfRun_of_made (normal : request.source.IsNormal)
    (failed : request.made kit s = .error failure) : failure.IsOfRun := by
  rw [made_eq] at failed
  rcases bind_eq_error_iff.mp failed with unlocated | ⟨path, located, failed⟩
  · exact isOfRun_of_locateSchema unlocated
  · exact isOfRun_of_produce (isNormal_of_locateSchema normal located) failed

theorem isOfRun_of_save {output : Output} {t : Text}
    (failed : (save kit s output t).printed = .error failure) : failure.IsOfRun := by
  rcases save_cases kit s output t with
    ⟨e, -, saved⟩ | ⟨opened, complaint, -, -, saved⟩ | ⟨bytes, written, -, -, saved⟩
  · rw [saved] at failed
    cases failed
    trivial
  · rw [saved] at failed
    cases failed
    trivial
  · rw [saved] at failed
    exact isOfRun_of_mapError failed fun _ => trivial

theorem isOfRun_of_deliver {product : Product}
    (failed : (request.deliver kit s product).printed = .error failure) : failure.IsOfRun := by
  cases product with
  | text t =>
    cases given : request.output? with
    | none =>
      rw [deliver_text_none given] at failed
      exact isOfRun_of_mapError failed fun _ => trivial
    | some output =>
      rw [deliver_text_some given] at failed
      exact isOfRun_of_save failed
  | sheet sheet => exact isOfRun_of_mapError failed fun _ => trivial

/-! ## Reports -/

theorem expects_of_isCommon (common : failure.IsCommon) : request.expects failure := by
  cases failure with
  | schema e => cases request <;> rfl
  | file e =>
    cases e with
    | onPath flaw path => cases request <;> rfl
    | _ => cases common
  | package e =>
    cases e with
    | system name message => cases request <;> rfl
    | _ => cases common
  | _ => cases common

/-- The command that creates a table expects every failure of a run but those that no command
expects. -/
theorem expects_createTable (ofRun : failure.IsOfRun) (foreseen : ¬ failure.IsUnforeseen) :
    (createTable source table output).expects failure := by
  cases failure with
  | noColumnSource | unknownField => cases ofRun
  | unusableLevel => exact absurd trivial foreseen
  | file e => cases e <;> rfl
  | package e =>
    cases e with
    | other name => exact absurd trivial foreseen
    | _ => rfl
  | _ => rfl

theorem run_ends (escaped : kit.ReportsEscaped s) (normal : request.source.IsNormal) :
    ((request.run kit s).status = 0 ∧ (request.run kit s).unexpected = none) ∨
      ∃ failure, failure.IsOfRun ∧ request.EndsWith kit s failure := by
  rcases run_eq_cases kit s request with ⟨failure, made, ends⟩ | ⟨product, -, delivered⟩
  · exact Or.inr ⟨failure, isOfRun_of_made normal made, endsWith_of_failed escaped ends⟩
  · rcases delivered with ⟨failure, printed, ends⟩ | ⟨bytes, -, ends⟩
    · exact Or.inr ⟨failure, isOfRun_of_deliver printed, endsWith_of_failed escaped ends⟩
    · rw [ends]
      exact Or.inl ⟨rfl, rfl⟩

/-- How the commands report failures, in all surroundings and with all packages that can report what
they escape. A run succeeds, or it ends with a failure, which it reports if it expects it; the
command that creates a table reports all but a few. A fault of the settings, of the schema file or
of the mapping file is the same one for each command that reads them, and all of them report it in
the same words if it is a fault of a document or of a mapping, or an error of the operating system.
-/
theorem failures_are_reported_or_break_off (escaped : kit.ReportsEscaped s) (request : Request)
    (normal : request.source.IsNormal) :
    (((request.run kit s).status = 0 ∧ (request.run kit s).unexpected = none) ∨
      ∃ failure, request.EndsWith kit s failure ∧
        ∀ source table output, request = createTable source table output →
          request.Reports kit s failure ∨ failure.IsUnforeseen) ∧
    ∀ failure, request.IsNamed → reading kit s request.source = .error failure →
      request.EndsWith kit s failure ∧
        (failure.IsCommon → request.Reports kit s failure) := by
  constructor
  · rcases run_ends escaped normal with succeeded | ⟨failure, ofRun, ends⟩
    · exact Or.inl succeeded
    · refine Or.inr ⟨failure, ends, ?_⟩
      intro source table output given
      subst given
      by_cases foreseen : failure.IsUnforeseen
      · exact Or.inr foreseen
      · rw [EndsWith, if_pos (expects_createTable ofRun foreseen)] at ends
        exact Or.inl ends
  · intro failure named failed
    have ends := endsWith_of_made escaped (made_of_reading_error normal named failed)
    refine ⟨ends, fun common => ?_⟩
    rwa [EndsWith, if_pos (expects_of_isCommon common)] at ends

/-- A table of one column. -/
def plainTable : TableRequest := ⟨"t", "b", [], [], []⟩

theorem isNamed_plainTable : plainTable.IsNamed :=
  ⟨⟨List.cons_ne_nil _ _, .ofString "t"⟩, ⟨List.cons_ne_nil _ _, .ofString "b"⟩⟩

/-- The surroundings of a run in which there is no file. -/
def noFiles : Surroundings :=
  { oneColumnSurroundings with files := ⟨[], []⟩ }

/-- What is wrong without the schema file. -/
def noSchemaFile : Failure := .file (.onPath .notFound (.ofText "src/schemas/s"))

/-- A schema file that is not there is reported, in a line that begins with the label. -/
theorem missing_file_is_reported :
    Toolkit.usual.ReportsEscaped noFiles ∧ Toolkit.usual.LabelsReports noFiles ∧
      oneColumnSource.IsNormal ∧
      reading .usual noFiles oneColumnSource = .error noSchemaFile ∧
      (createTable oneColumnSource plainTable none).Reports .usual noFiles noSchemaFile := by
  have escaped : Toolkit.usual.ReportsEscaped noFiles :=
    Toolkit.reportsEscaped_plain 80 none noFiles
  have labels : Toolkit.usual.LabelsReports noFiles :=
    Toolkit.labelsReports_plain none (by decide) noFiles
  have failed : reading .usual noFiles oneColumnSource = .error noSchemaFile := rfl
  obtain ⟨-, reports⟩ := failures_are_reported_or_break_off escaped
    (createTable oneColumnSource plainTable none) isNormal_oneColumnSource
  exact ⟨escaped, labels, isNormal_oneColumnSource, failed,
    (reports noSchemaFile isNamed_plainTable failed).2 trivial⟩

/-! ## A setting that is no form of a log -/

/-- The surroundings of a run in which there is a schema file with one column, and a setting that is
no form of a log. -/
def misnamedFormat : Surroundings :=
  { oneColumnSurroundings with environment := [("ICEBERG_DDL_LOG_FORMAT", "xml")] }

/-- What is reported about this setting. -/
def misnamedReport : ValidationReport where
  model := Settings.model
  issues := [⟨.notChoice Settings.logFormats, [.name "log_format"], .text "xml"⟩]

theorem reading_misnamedFormat :
    reading .usual misnamedFormat oneColumnSource = .error (.invalid misnamedReport) := by
  have loaded : (Toolkit.usual.settings misnamedFormat).2 = .error (.invalid misnamedReport) := rfl
  rw [reading, locateSchema, loaded]
  rfl

/-- The commands that list and show columns break off because of this setting; the one that creates
a table reports it. -/
theorem misnamedFormat_is_reported_by_one :
    (columns oneColumnSource none).BreaksOff .usual misnamedFormat (.invalid misnamedReport) ∧
      (showSchema oneColumnSource).BreaksOff .usual misnamedFormat (.invalid misnamedReport) ∧
      (createTable oneColumnSource plainTable none).Reports .usual misnamedFormat
        (.invalid misnamedReport) := by
  have escaped : Toolkit.usual.ReportsEscaped misnamedFormat :=
    Toolkit.reportsEscaped_plain 80 none misnamedFormat
  have ends (request : Request) (source : request.source = oneColumnSource)
      (named : request.IsNamed) :
      request.EndsWith .usual misnamedFormat (.invalid misnamedReport) := by
    have normal : request.source.IsNormal := source ▸ isNormal_oneColumnSource
    exact endsWith_of_made escaped
      (made_of_reading_error normal named (source ▸ reading_misnamedFormat))
  exact ⟨ends (columns oneColumnSource none) rfl trivial,
    ends (showSchema oneColumnSource) rfl trivial,
    ends (createTable oneColumnSource plainTable none) rfl isNamed_plainTable⟩

end Request

end TableDdl
