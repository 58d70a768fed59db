import TableDdl.Mapping
import TableDdl.Proofs.Document.Agreement
import TableDdl.Proofs.Json.LongInteger
import TableDdl.Proofs.Schema.FirstFault

/-!
# What faulty input is refused with

A document or a mapping file that is refused is refused with an error of the package, up to one
exception: an integer with more digits than are read. The reader gives up on such an integer before
the document or the file can be reported (`refusals_are_schema_errors`).
-/

namespace TableDdl

open Json Outcome Schema

/-- The test for an error of the package in one of some classes. -/
def Failure.IsFault (classes : FaultClass → Prop) (failure : Failure) : Prop :=
  ∃ e, failure = .schema e ∧ classes e.fault.faultClass

/-- The test for the failure that reports an integer of a text with too many digits. -/
def Failure.IsLongIntegerOf (t : Text) (failure : Failure) : Prop :=
  ∃ n, failure = .longInteger n ∧ HasLongInteger t n

variable {document : Document} {overlay : Option Overlay} {failure : Failure}

/-! ## Documents -/

/-- A document that is not loaded is reported as unreadable, unless the reader gives up on an
integer in its text. -/
theorem Document.refusal_of_load (failed : document.load = .error failure) :
    failure.IsFault (· = .invalidDocument) ∨
      ∃ t, document.decode = .ok t ∧ failure.IsLongIntegerOf t := by
  unfold load at failed
  cases decoded : document.decode with
  | error cause =>
    rw [decoded] at failed
    cases failed
    exact Or.inl ⟨_, rfl, rfl⟩
  | ok t =>
    simp only [decoded] at failed
    cases found : Json.read t with
    | ok value =>
      rw [found] at failed
      cases failed
    | error e =>
      rw [found] at failed
      cases e with
      | malformed complaint =>
        cases failed
        exact Or.inl ⟨_, rfl, rfl⟩
      | longInteger n =>
        cases failed
        exact Or.inr ⟨t, rfl, n, rfl, hasLongInteger_of_read found⟩

/-- The classes of the errors about what a document says. -/
def Schema.FaultClass.IsOfContent (c : FaultClass) : Prop :=
  c ≠ .schema ∧ c ≠ .invalidDocument

theorem isOfContent_of_visit {visit : Visit} {fault : Fault} (isFault : visit.HasFault fault) :
    fault.faultClass.IsOfContent := by
  rw [Visit.faultClass_eq isFault]
  unfold Visit.faultClass
  split
  · split
    · split <;> exact ⟨nofun, nofun⟩
    · exact ⟨nofun, nofun⟩
    · exact ⟨nofun, nofun⟩
    · exact ⟨nofun, nofun⟩
  · exact ⟨nofun, nofun⟩

/-- A value that is refused is refused because of what it says. -/
theorem isOfContent_of_recordOf {v : Json} {e : SchemaError}
    (failed : (recordOf overlay v).outcome = .error e) : e.fault.faultClass.IsOfContent := by
  by_cases root : ∃ fault, HasRootFault v fault
  · obtain ⟨fault, root⟩ := root
    rw [recordOf_outcome_of_rootFault root] at failed
    cases failed
    rw [root.faultClass_eq]
    exact ⟨nofun, nofun⟩
  · have first := @error?_recordOf overlay v fun fault isRoot => root ⟨fault, isRoot⟩
    rw [error?_eq_some_iff.mpr failed] at first
    obtain ⟨placed, found, rfl⟩ := Option.map_eq_some_iff.mp first.symm
    obtain ⟨visit, before, after, -, -, isFault⟩ := firstFault?_eq_some_iff.mp found
    exact isOfContent_of_visit isFault

/-- A record is not built because its document is not loaded, or because of what the document
says. -/
theorem Document.refusal_of_buildRecord
    (failed : (document.buildRecord overlay).outcome = .error failure) :
    document.load = .error failure ∨
      (∃ v, document.load = .ok v) ∧ failure.IsFault FaultClass.IsOfContent := by
  rw [buildRecord, Traced.outcome_bind, outcome_ofExcept, bind_eq_error_iff] at failed
  rcases failed with unloaded | ⟨v, loaded, refused⟩
  · exact Or.inl unloaded
  · rw [Traced.outcome_mapError] at refused
    cases read : (recordOf overlay v).outcome with
    | ok r =>
      rw [read] at refused
      cases refused
    | error e =>
      rw [read] at refused
      cases refused
      exact Or.inr ⟨⟨v, loaded⟩, e, rfl, isOfContent_of_recordOf read⟩

/-- A record is not built for an error of the package, or because the reader gives up on an integer.
-/
theorem Document.fault_or_longInteger_of_buildRecord
    (failed : (document.buildRecord overlay).outcome = .error failure) :
    failure.IsFault (fun _ => True) ∨ ∃ t, failure.IsLongIntegerOf t := by
  rcases refusal_of_buildRecord failed with unloaded | ⟨-, e, same, -⟩
  · rcases refusal_of_load unloaded with ⟨e, same, -⟩ | ⟨t, -, long⟩
    · exact Or.inl ⟨e, same, trivial⟩
    · exact Or.inr ⟨t, long⟩
  · exact Or.inl ⟨e, same, trivial⟩

/-! ## Mapping files -/

/-- The content of a mapping file is refused with an error of the package, unless the reader gives
up on an integer in its text. -/
theorem Mapping.refusal_of_ofBytes {path : Path} {bytes : List UInt8}
    (failed : Mapping.ofBytes path bytes = .error failure) :
    failure.IsFault (fun _ => True) ∨ ∃ cs, Utf8.decode bytes = .ok cs ∧
      failure.IsLongIntegerOf ((unifyLineEndings cs).map .scalar) := by
  unfold ofBytes at failed
  cases decoded : Utf8.decode bytes with
  | error malformed =>
    rw [decoded] at failed
    cases failed
    exact Or.inl ⟨_, rfl, trivial⟩
  | ok cs =>
    simp only [decoded] at failed
    cases found : Json.read ((unifyLineEndings cs).map .scalar) with
    | ok value =>
      rw [found] at failed
      cases taken : Overlay.ofJson value with
      | ok o =>
        simp only [taken] at failed
        cases failed
      | error e =>
        simp only [taken] at failed
        cases failed
        exact Or.inl ⟨e, rfl, trivial⟩
    | error e =>
      rw [found] at failed
      cases e with
      | malformed complaint =>
        cases failed
        exact Or.inl ⟨_, rfl, trivial⟩
      | longInteger n =>
        cases failed
        exact Or.inr ⟨cs, rfl, n, rfl, hasLongInteger_of_read found⟩

theorem Mapping.load_of_read {fs : FileSystem} {path : Path} {bytes : List UInt8}
    (read : fs.read path = .ok bytes) : Mapping.load fs (some path) = ofBytes path bytes := by
  rw [load, read]
  rfl

/-! ## Refusals -/

/-- Faulty input is refused with errors of the package, save for integers with too many digits. A
document that is not loaded is unreadable. A document that is loaded is compiled, or refused because
of what it says, in all ways of compiling alike; under an overlay that was itself read from a text,
what is compiled can be written. A mapping file that can be read as a file is taken or refused. -/
theorem refusals_are_schema_errors (document : Document) (overlay : Option Overlay)
    (fs : FileSystem) (path : Path) :
    (∀ failure, document.load = .error failure →
      failure.IsFault (· = .invalidDocument) ∨
        ∃ t, document.decode = .ok t ∧ failure.IsLongIntegerOf t) ∧
    ((∀ entries, overlay = some entries → ∃ t, Json.read t = .ok (.object entries)) →
      (document.columns overlay).outcome =
          Record.columns <$> (document.buildRecord overlay).outcome ∧
        (document.compile overlay).outcome =
          Record.columnList <$> (document.buildRecord overlay).outcome ∧
        (∀ failure, (document.buildRecord overlay).outcome = .error failure →
          document.load = .error failure ∨
            (∃ v, document.load = .ok v) ∧ failure.IsFault FaultClass.IsOfContent) ∧
        ∀ r, (document.buildRecord overlay).outcome = .ok r →
          ∀ n ∈ r.toType.parameters, FewDigits n) ∧
    ∀ bytes failure, fs.read path = .ok bytes → Mapping.load fs (some path) = .error failure →
      failure.IsFault (fun _ => True) ∨ ∃ cs, Utf8.decode bytes = .ok cs ∧
        failure.IsLongIntegerOf ((Mapping.unifyLineEndings cs).map .scalar) := by
  refine ⟨fun _ => Document.refusal_of_load, fun given => ?compiled, ?mapping⟩
  case compiled =>
    exact ⟨Document.columns_outcome overlay document, Document.compile_outcome overlay document,
      fun _ => Document.refusal_of_buildRecord, fun _ => fewDigits_of_buildRecord given⟩
  case mapping =>
    intro bytes failure read failed
    rw [Mapping.load_of_read read] at failed
    exact Mapping.refusal_of_ofBytes failed

/-- A document that is a number with one digit too many. -/
def longNumber : Document := .text (Text.ofNat (Nat.pow 10 maxIntegerDigits))

theorem longNumber_is_no_schema_error :
    longNumber.load = .error (.longInteger (maxIntegerDigits + 1)) ∧
      (longNumber.compile none).outcome = .error (.longInteger (maxIntegerDigits + 1)) ∧
      ¬ (Failure.longInteger (maxIntegerDigits + 1)).IsFault fun _ => True := by
  have length := Text.length_ofNat_pow maxIntegerDigits (by decide)
  have long : maxIntegerDigits < (Text.ofNat (Nat.pow 10 maxIntegerDigits)).length := by
    rw [length]
    exact Nat.lt_succ_self _
  have loaded : longNumber.load = .error (.longInteger (maxIntegerDigits + 1)) := by
    rw [longNumber, Document.load]
    simp only [Document.decode, read_ofNat_of_long long, length]
  refine ⟨loaded, ?_, ?_⟩
  · rw [Document.compile_outcome, Document.buildRecord, Traced.outcome_bind, outcome_ofExcept,
      loaded]
    rfl
  · intro isFault
    obtain ⟨e, same, -⟩ := isFault
    cases same

theorem oneColumn_is_no_mapping :
    (∃ t, Json.read t = .ok (.object priceOverlay)) ∧
      (∃ r, ((Document.bytes oneColumnBytes).buildRecord (some priceOverlay)).outcome = .ok r ∧
        ∀ n ∈ r.toType.parameters, FewDigits n) ∧
      oneColumnFiles.read (.ofText "s") = .ok oneColumnBytes ∧
      ∃ failure, Mapping.load oneColumnFiles (some (.ofText "s")) = .error failure ∧
        (failure.IsFault (fun _ => True) ∨ ∃ cs, Utf8.decode oneColumnBytes = .ok cs ∧
          failure.IsLongIntegerOf ((Mapping.unifyLineEndings cs).map .scalar)) := by
  obtain ⟨-, compiled, mapping⟩ :=
    refusals_are_schema_errors (.bytes oneColumnBytes) (some priceOverlay) oneColumnFiles
      (.ofText "s")
  have given : ∀ entries, some priceOverlay = some entries →
      ∃ t, Json.read t = .ok (.object entries) := by
    intro entries same
    cases same
    exact ⟨_, priceOverlay_is_read⟩
  obtain ⟨-, -, -, written⟩ := compiled given
  have inFile : oneColumnFiles.read (.ofText "s") = .ok oneColumnBytes := rfl
  have refused : Mapping.load oneColumnFiles (some (.ofText "s")) =
      .error (.schema ⟨.overlayDefinition, some "id"⟩) := by
    have text : (Mapping.unifyLineEndings
        "\x7b\"id\": \x7b\"type\": \"string\"\x7d\x7d".toList).map CodePoint.scalar =
          write oneColumn := rfl
    rw [Mapping.load_of_read inFile, Mapping.ofBytes, oneColumnBytes, Utf8.decode_encode]
    simp only [text, read_oneColumn]
    rfl
  exact ⟨given _ rfl, ⟨_, oneColumn_under_priceOverlay, written _ oneColumn_under_priceOverlay⟩,
    inFile, _, refused, mapping _ _ inFile refused⟩

end TableDdl
