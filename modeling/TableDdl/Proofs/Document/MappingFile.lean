import TableDdl.Mapping
import TableDdl.Proofs.Document.Refusal
import TableDdl.Proofs.Json.LineEndings
import TableDdl.Proofs.Table.Definition

/-!
# Mapping files and documents

A mapping file is read as text, with unified line endings, and a document as it stands. Nevertheless
the same bytes have the same value as the one and as the other, and the reading of the one fails
where that of the other does (`mapping_file_is_read_as_document`). What differs is how a failure is
reported, and the place of it in the text.
-/

namespace TableDdl

open Json Outcome Schema

/-- What a source is unreadable for, without a place in its text. -/
def Schema.Unreadable.unplaced : Unreadable → Utf8.Malformed ⊕ Complaint
  | .bytes malformed => .inl malformed
  | .text placed => .inr placed.complaint

namespace Mapping

variable {path : Path} {bytes : List UInt8} {v : Json} {e : SchemaError}

theorem map_unifyLineEndings (cs : List Char) :
    (unifyLineEndings cs).map CodePoint.scalar = unifyLines (cs.map .scalar) := by
  fun_induction unifyLineEndings cs with
  | case1 => rfl
  | case2 rest ih =>
    rw [List.map_cons, ih]
    rfl
  | case3 rest noFeed ih =>
    rw [List.map_cons, ih, List.map_cons, unifyLines]
    intro after same
    obtain ⟨c, rest', rfl, feed, -⟩ := List.map_eq_cons_iff.mp same
    cases feed
    exact noFeed rest' rfl
  | case4 c rest _ noReturn ih =>
    rw [List.map_cons, ih, List.map_cons, unifyLines_cons]
    intro same
    cases same
    exact noReturn rfl

/-! ## Overlays -/

/-- An overlay is taken as the value that it is given by. -/
theorem mappingValue_of_ofJson {overlay : Option Overlay} (taken : Overlay.ofJson v = .ok overlay) :
    TableDefinition.mappingValue overlay = v := by
  cases v with
  | null =>
    cases taken
    rfl
  | object members =>
    obtain ⟨-, -, rfl⟩ := map_eq_ok_iff.mp taken
    rfl
  | bool | int | real | text | array => cases taken

theorem faultClass_of_replacement? {overlay : Option Overlay} {key : Text} {fault : Fault}
    (refused : Overlay.replacement? overlay key = .error fault) :
    fault.faultClass = .malformedNode := by
  unfold Overlay.replacement? at refused
  split at refused
  · cases refused
  · have isFault := entryOf_eq_error_iff.mp (map_eq_error_iff.mp refused)
    cases isFault <;> rfl

theorem faultClass_of_check {overlay : Overlay} {keys : List Text}
    (refused : Overlay.check overlay keys = .error e) : e.fault.faultClass = .malformedNode := by
  induction keys with
  | nil => cases refused
  | cons key rest ih =>
    rw [Overlay.check] at refused
    split at refused
    · rename_i resolved
      cases refused
      cases found : Overlay.replacement? (some overlay) key with
      | ok replacement =>
        rw [Overlay.resolve, found] at resolved
        cases resolved
      | error fault =>
        rw [Overlay.resolve, found] at resolved
        cases resolved
        exact faultClass_of_replacement? found
    · exact ih refused

/-- A value that is no overlay is malformed. -/
theorem faultClass_of_ofJson (refused : Overlay.ofJson v = .error e) :
    e.fault.faultClass = .malformedNode := by
  cases v with
  | null => cases refused
  | object members => exact faultClass_of_check (map_eq_error_iff.mp refused)
  | bool | int | real | text | array =>
    cases refused
    rfl

/-! ## Reading -/

/-- Bytes are loaded as a document and taken as an overlay by the same value, are unreadable as both
for the same, or hold the same integer with too many digits. -/
theorem load_and_ofBytes (path : Path) (bytes : List UInt8) :
    (∃ v, (Document.bytes bytes).load = .ok v ∧
        ofBytes path bytes = (Overlay.ofJson v).mapError Failure.schema) ∨
      (∃ cause cause',
        (Document.bytes bytes).load = .error (.schema ⟨.documentUnreadable cause, none⟩) ∧
          ofBytes path bytes = .error (.schema ⟨.mappingUnreadable path.toText cause', none⟩) ∧
          cause'.unplaced = cause.unplaced) ∨
      ∃ n, (Document.bytes bytes).load = .error (.longInteger n) ∧
        ofBytes path bytes = .error (.longInteger n) := by
  cases decoded : Utf8.decode bytes with
  | error malformed =>
    refine Or.inr (Or.inl ⟨.bytes malformed, .bytes malformed, ?_, ?_, rfl⟩)
    · simp only [Document.load, Document.decode, decoded]
    · simp only [ofBytes, decoded]
  | ok cs =>
    rcases read_unifyLines (cs.map .scalar) with
      ⟨v, read, unified⟩ | ⟨placed, placed', read, unified, same⟩ | ⟨n, read, unified⟩
    · refine Or.inl ⟨v, ?_, ?_⟩
      · simp only [Document.load, Document.decode, decoded, read]
      · simp only [ofBytes, decoded, map_unifyLineEndings, unified]
    · refine Or.inr (Or.inl ⟨.text placed, .text placed', ?_, ?_, congrArg Sum.inr same⟩)
      · simp only [Document.load, Document.decode, decoded, read]
      · simp only [ofBytes, decoded, map_unifyLineEndings, unified]
    · refine Or.inr (Or.inr ⟨n, ?_, ?_⟩)
      · simp only [Document.load, Document.decode, decoded, read]
      · simp only [ofBytes, decoded, map_unifyLineEndings, unified]

/-- A file of some bytes has the value as a mapping file that the bytes have as a document, if this
value is an overlay. Bytes that are unreadable as a document are unreadable for the same as a
mapping file, which is reported with an error of the general class and without a path. The limit on
the digits of an integer is reported alike. A document that is no overlay is refused as an overlay
by the error that the check of its value gives. -/
theorem mapping_file_is_read_as_document {fs : FileSystem} (inFile : fs.read path = .ok bytes) :
    (∀ v, (∃ overlay, load fs (some path) = .ok overlay ∧
        TableDefinition.mappingValue overlay = v) ↔
      (Document.bytes bytes).load = .ok v ∧ ∃ overlay, Overlay.ofJson v = .ok overlay) ∧
    (∀ e, (Document.bytes bytes).load = .error (.schema e) →
      e.fault.faultClass = .invalidDocument ∧
        ∃ cause cause', e.fault = .documentUnreadable cause ∧ cause'.unplaced = cause.unplaced ∧
          ∃ e', load fs (some path) = .error (.schema e') ∧ e'.fault.faultClass = .schema ∧
            e'.path = none ∧ e'.fault = .mappingUnreadable path.toText cause') ∧
    (∀ n, (Document.bytes bytes).load = .error (.longInteger n) →
      load fs (some path) = .error (.longInteger n)) ∧
    ∀ v e, (Document.bytes bytes).load = .ok v → Overlay.ofJson v = .error e →
      load fs (some path) = .error (.schema e) ∧ e.fault.faultClass = .malformedNode := by
  rw [load_of_read inFile]
  rcases load_and_ofBytes path bytes with
    ⟨v, loaded, taken⟩ | ⟨cause, cause', failed, refused, same⟩ | ⟨n, failed, refused⟩
  · rw [loaded, taken]
    refine ⟨fun v' => ⟨?forth, ?back⟩, nofun, nofun, ?rejected⟩
    case forth =>
      intro given
      obtain ⟨overlay, accepted, rfl⟩ := given
      rw [mapError_eq_ok_iff] at accepted
      rw [mappingValue_of_ofJson accepted]
      exact ⟨rfl, overlay, accepted⟩
    case back =>
      intro given
      obtain ⟨same, overlay, accepted⟩ := given
      cases same
      exact ⟨overlay, mapError_eq_ok_iff.mpr accepted, mappingValue_of_ofJson accepted⟩
    case rejected =>
      intro v' e same rejected
      cases same
      rw [rejected]
      exact ⟨rfl, faultClass_of_ofJson rejected⟩
  · rw [failed, refused]
    refine ⟨fun v' => ⟨nofun, nofun⟩, ?_, nofun, nofun⟩
    intro e eq
    cases eq
    exact ⟨rfl, cause, cause', rfl, same, _, rfl, rfl, rfl, rfl⟩
  · rw [failed, refused]
    refine ⟨fun v' => ⟨nofun, nofun⟩, nofun, ?_, nofun⟩
    intro n eq
    cases eq
    rfl

/-- Null on a line of its own. -/
def nullLines : List Char := ['\r', '\n', 'n', 'u', 'l', 'l', '\r']

/-- A working directory with a mapping file of these lines. -/
def nullFiles : FileSystem := ⟨[], [([FileName.ofText "m"], .file (Utf8.encode nullLines))]⟩

theorem nullLines_load : (Document.bytes (Utf8.encode nullLines)).load = .ok .null := by
  have cut : tokens (nullLines.map .scalar) =
      [⟨.atom .null, ['n', 'u', 'l', 'l', '\r'].map .scalar⟩] := by
    show tokens (.scalar '\r' :: .scalar '\n' :: .scalar 'n' :: _) = _
    rw [tokens_blank rfl, tokens_blank rfl, tokens, if_neg (by decide)]
    show _ :: tokens [.scalar '\r'] = _
    rw [tokens_blank rfl, tokens]
    rfl
  refine Document.load_eq_ok_iff.mpr ⟨nullLines.map .scalar, ?_, ?_⟩
  · rw [Document.decode, Utf8.decode_encode]
  · show Except.mapError _ (State.run _ (tokens (nullLines.map .scalar))) = _
    rw [cut]
    rfl

theorem nullFiles_mapping_is_null :
    nullFiles.read (.ofText "m") = .ok (Utf8.encode nullLines) ∧
      (Document.bytes (Utf8.encode nullLines)).load = .ok .null ∧
      ∃ overlay, load nullFiles (some (.ofText "m")) = .ok overlay ∧
        TableDefinition.mappingValue overlay = .null := by
  have inFile : nullFiles.read (.ofText "m") = .ok (Utf8.encode nullLines) := rfl
  have taken := ((mapping_file_is_read_as_document inFile).1 .null).mpr
    ⟨nullLines_load, none, rfl⟩
  exact ⟨inFile, nullLines_load, taken⟩

end Mapping

end TableDdl
