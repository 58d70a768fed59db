import TableDdl.Proofs.Document.Refusal
import TableDdl.Proofs.Json.AnyText
import TableDdl.Proofs.Json.ObjectText
import TableDdl.Proofs.Schema.OverlayCheck

/-!
# Overlays that are checked before they are used

Whether an overlay passes its check decides whether there is a document at all that is refused
because of an entry (`checked_overlay_is_never_at_fault`). For an overlay that fails, this is the
document that has the column of the first bad entry alone, and it is refused with the error of the
check. There is a text of this document whatever the key of the column is.
-/

namespace TableDdl

open Json Outcome Schema

variable {overlay : Option Overlay} {document : Document} {failure : Failure} {v : Json}

/-! ## The outcome of compiling -/

namespace Document

theorem compile_outcome_eq_error_iff :
    (document.compile overlay).outcome = .error failure ↔
      document.load = .error failure ∨
        ∃ v e, document.load = .ok v ∧ (recordOf overlay v).outcome = .error e ∧
          failure = .schema e := by
  rw [compile_outcome, map_eq_error_iff, buildRecord, Traced.outcome_bind, bind_eq_error_iff,
    outcome_ofExcept]
  simp only [Traced.outcome_mapError, mapError_eq_error_iff]
  apply or_congr_right
  constructor
  · intro h
    obtain ⟨v, loaded, e, refused, same⟩ := h
    exact ⟨v, e, loaded, refused, same.symm⟩
  · intro h
    obtain ⟨v, e, loaded, refused, same⟩ := h
    exact ⟨v, loaded, e, refused, same.symm⟩

/-- A document that is loaded is refused with the error that its value gives. -/
theorem compile_outcome_of_load {e : SchemaError} (loaded : document.load = .ok v)
    (refused : (recordOf overlay v).outcome = .error e) :
    (document.compile overlay).outcome = .error (.schema e) :=
  compile_outcome_eq_error_iff.mpr (Or.inr ⟨v, e, loaded, refused, rfl⟩)

/-- A text of the document whose one column has a key. -/
def probeText (key : Text) : Text :=
  .scalar '\x7b' :: (quote "properties" ++ .scalar ':' :: .scalar '\x7b' :: (shown key ++
    .scalar ':' :: (write (.object [("type", .text "string")]) ++
      [.scalar '\x7d', .scalar '\x7d'])))

theorem lexemesOf_probeText (key : Text) : lexemesOf (probeText key) = lexemes (probe key) := by
  have cut : IsCut (.object [("type", .text "string")]) :=
    lexemesOf_write (isWritable_one (.text (isJoined_ofString "string")))
  rw [probeText, lexemesOf_cons (p := .scalar '\x7b') rfl rfl,
    lexemesOf_quote (isJoined_ofString "properties"), lexemesOf_cons (p := .scalar ':') rfl rfl,
    lexemesOf_cons (p := .scalar '\x7b') rfl rfl, lexemesOf_shown,
    lexemesOf_cons (p := .scalar ':') rfl rfl, cut _ (endsNumber_of_mark (by simp) _),
    lexemesOf_cons (p := .scalar '\x7d') rfl rfl, lexemesOf_cons (p := .scalar '\x7d') rfl rfl,
    lexemesOf_nil]
  simp [probe, lexemes, memberLexemes]

theorem read_probeText (key : Text) : Json.read (probeText key) = .ok (probe key) := by
  have one (name : Text) {inner : Json} (taken : IsTaken inner) :
      IsTaken (.object [(name, inner)]) :=
    reaches_object (List.forall_mem_singleton.mpr taken) (List.nodup_singleton _)
  have kind : IsTaken (.text "string") := fun frames => .cons (fun _ => rfl) (.refl _)
  have taken : IsTaken (probe key) := one _ (one _ (one _ kind))
  have noMark : ¬ ∃ rest, probeText key = .scalar '\ufeff' :: rest := by
    intro marked
    obtain ⟨rest, same⟩ := marked
    cases same
  apply read_of_reaches noMark
  rw [lexemesOf_probeText]
  exact taken []

theorem exists_load_eq_probe (key : Text) :
    ∃ document : Document, document.load = .ok (probe key) :=
  ⟨.text (probeText key), load_eq_ok_iff.mpr ⟨_, rfl, read_probeText key⟩⟩

end Document

/-! ## The check -/

section Read

variable {t : Text} (given : Json.read t = .ok (TableDefinition.mappingValue overlay))

include given

theorem nodup_of_read {entries : Overlay} (present : overlay = some entries) :
    entries.keys.Nodup := by
  subst present
  have regular : IsRegular (fun _ => True) Binary64.InRange (.object entries) :=
    isRegular_of_read (fun _ _ _ _ => trivial) given
  exact regular.nodup

theorem ofJson_mappingValue_eq_ok_iff {result : Option Overlay} :
    Overlay.ofJson (TableDefinition.mappingValue overlay) = .ok result ↔
      Overlay.IsChecked overlay ∧ result = overlay := by
  cases overlay with
  | none =>
    have nothing : Overlay.IsChecked none := nofun
    show Except.ok none = .ok result ↔ _
    rw [Except.ok.injEq, and_iff_right nothing, eq_comm]
  | some entries =>
    show Overlay.ofJson (.object entries) = .ok result ↔ _
    rw [Overlay.ofJson_object_eq_ok_iff (nodup_of_read given rfl), Overlay.IsChecked]
    simp only [Option.some.injEq, forall_eq']

theorem ofJson_mappingValue_eq_error_iff {e : SchemaError} :
    Overlay.ofJson (TableDefinition.mappingValue overlay) = .error e ↔
      ∃ entries key, overlay = some entries ∧ Overlay.IsFirstBadEntry entries key e := by
  cases overlay with
  | none =>
    apply iff_of_false nofun
    intro h
    obtain ⟨entries, key, present, -⟩ := h
    cases present
  | some entries =>
    show Overlay.ofJson (.object entries) = .error e ↔ _
    rw [Overlay.ofJson_object_eq_error_iff (nodup_of_read given rfl)]
    simp only [Option.some.injEq, exists_and_left, exists_eq_left']

/-- In the document of its column the first bad entry is reported as the check reports it. -/
theorem compile_probe_of_isFirstBadEntry {entries : Overlay} {key : Text} {e : SchemaError}
    (present : overlay = some entries) (first : Overlay.IsFirstBadEntry entries key e)
    (loaded : document.load = .ok (probe key)) :
    (document.compile overlay).outcome = .error (.schema e) := by
  have refused := Overlay.resolve_of_isFirstBadEntry (nodup_of_read given present) first
  rw [← present] at refused
  exact Document.compile_outcome_of_load loaded (recordOf_probe refused)

end Read

/-- Under a checked overlay, compiling fails because the document is not loaded, or for the fault
that is reported when the replacements stand in the document itself. -/
theorem compile_outcome_of_isChecked (checked : Overlay.IsChecked overlay) :
    (document.compile overlay).outcome = .error failure ↔
      document.load = .error failure ∨
        ∃ v e, document.load = .ok v ∧
          (recordOf none (substituted overlay v)).outcome = .error e ∧ failure = .schema e := by
  simp only [Document.compile_outcome_eq_error_iff, recordOf_eq_recordOf_substituted checked]

/-- An overlay passes its check, which leaves it as it is, exactly if no document is refused because
of an entry; documents are then compiled as if the replacements stood in them. An overlay that fails
is refused because of its first bad entry, under the key of it, and with the error that the document
with the column of this key alone is refused with. -/
theorem checked_overlay_is_never_at_fault {t : Text}
    (given : Json.read t = .ok (TableDefinition.mappingValue overlay)) :
    ((∃ result, Overlay.ofJson (TableDefinition.mappingValue overlay) = .ok result) ↔
      ∀ (document : Document) e,
        (document.compile overlay).outcome = .error (.schema e) → ¬ e.fault.IsOfEntry) ∧
    (∀ result, Overlay.ofJson (TableDefinition.mappingValue overlay) = .ok result →
      result = overlay ∧
        ∀ (document : Document) failure,
          (document.compile overlay).outcome = .error failure ↔
            document.load = .error failure ∨
              ∃ v e, document.load = .ok v ∧
                (recordOf none (substituted overlay v)).outcome = .error e ∧
                failure = .schema e) ∧
    (∀ e, Overlay.ofJson (TableDefinition.mappingValue overlay) = .error e ↔
      ∃ entries key, overlay = some entries ∧ Overlay.IsFirstBadEntry entries key e) ∧
    ∀ entries key e, overlay = some entries → Overlay.IsFirstBadEntry entries key e →
      e.fault.faultClass = .malformedNode ∧
        (∃ document : Document, document.load = .ok (probe key)) ∧
        ∀ document : Document, document.load = .ok (probe key) →
          (document.compile overlay).outcome = .error (.schema e) := by
  refine ⟨⟨?passed, ?never⟩, ?compiled, fun e => ofJson_mappingValue_eq_error_iff given, ?bad⟩
  case passed =>
    intro h document e failed
    obtain ⟨result, taken⟩ := h
    obtain ⟨checked, -⟩ := (ofJson_mappingValue_eq_ok_iff given).mp taken
    rcases (compile_outcome_of_isChecked checked).mp failed with unloaded | ⟨v, e', -, read, same⟩
    · rcases Document.refusal_of_load unloaded with ⟨e', same, unreadable⟩ | ⟨t', -, n, same, -⟩
      · cases same
        exact fun ofEntry => absurd (ofEntry.faultClass_eq.symm.trans unreadable) nofun
      · cases same
    · cases same
      exact not_isOfEntry_of_recordOf_none read
  case never =>
    intro never
    cases taken : Overlay.ofJson (TableDefinition.mappingValue overlay) with
    | ok result => exact ⟨result, rfl⟩
    | error e =>
      obtain ⟨entries, key, present, first⟩ := (ofJson_mappingValue_eq_error_iff given).mp taken
      obtain ⟨document, loaded⟩ := Document.exists_load_eq_probe key
      have failed := compile_probe_of_isFirstBadEntry given present first loaded
      obtain ⟨before, entry, after, -, -, bad, -⟩ := first
      exact absurd bad.isOfEntry (never document e failed)
  case compiled =>
    intro result taken
    obtain ⟨checked, same⟩ := (ofJson_mappingValue_eq_ok_iff given).mp taken
    exact ⟨same, fun document failure => compile_outcome_of_isChecked checked⟩
  case bad =>
    intro entries key e present first
    refine ⟨?_, Document.exists_load_eq_probe key, fun document loaded =>
      compile_probe_of_isFirstBadEntry given present first loaded⟩
    obtain ⟨before, entry, after, -, -, bad, -⟩ := first
    exact bad.isOfEntry.faultClass_eq

/-- An overlay that replaces a column by one that is a text. -/
def renamedId : Overlay := [("id", .object [("key", .object [("type", .text "string")])])]

/-- An overlay with a second entry, which is no object, for a column that is named `type`. -/
def renamedIdAndType : Overlay :=
  [("id", .object [("key", .object [("type", .text "string")])]), ("type", .text "key")]

theorem isWritable_renamedId :
    IsWritable (.object [("key", .object [("type", .text "string")])]) :=
  isWritable_one (isWritable_one (.text (isJoined_ofString "string")))

theorem read_renamedId :
    Json.read (write (.object renamedId)) = .ok (TableDefinition.mappingValue (some renamedId)) :=
  read_write (isWritable_one isWritable_renamedId)

theorem read_renamedIdAndType :
    Json.read (write (.object renamedIdAndType)) =
      .ok (TableDefinition.mappingValue (some renamedIdAndType)) := by
  have distinct : Text.ofString "id" ≠ Text.ofString "type" := by decide
  exact read_write
    (isWritable_two distinct isWritable_renamedId (.text (isJoined_ofString "key")))

theorem bad_entry_is_reported_as_checked :
    (∀ (document : Document) e,
      (document.compile (some renamedId)).outcome = .error (.schema e) → ¬ e.fault.IsOfEntry) ∧
    Overlay.ofJson (.object renamedIdAndType) = .error ⟨.overlayEntry, some "type"⟩ ∧
    (Document.text (Document.probeText "type")).load = .ok (probe "type") ∧
    ((Document.text (Document.probeText "type")).compile (some renamedIdAndType)).outcome =
      .error (.schema ⟨.overlayEntry, some "type"⟩) := by
  have loaded : (Document.text (Document.probeText "type")).load = .ok (probe "type") :=
    Document.load_eq_ok_iff.mpr ⟨_, rfl, Document.read_probeText "type"⟩
  have first : Overlay.IsFirstBadEntry renamedIdAndType "type" ⟨.overlayEntry, some "type"⟩ :=
    ⟨renamedId, .text "key", [], rfl, List.forall_mem_singleton.mpr ⟨_, _, rfl⟩, .entry nofun, rfl⟩
  obtain ⟨never, -⟩ := checked_overlay_is_never_at_fault read_renamedId
  obtain ⟨-, -, refused, alike⟩ := checked_overlay_is_never_at_fault read_renamedIdAndType
  exact ⟨never.mp ⟨_, rfl⟩, (refused _).mpr ⟨_, _, rfl, first⟩, loaded,
    (alike _ _ _ rfl first).2.2 _ loaded⟩

end TableDdl
