import TableDdl.Compile
import TableDdl.Proofs.Schema.Encoding

/-!
# Records written as documents

A record is written as a document and read back from it. `readsBack_iff` says for which records this
succeeds: in each record inside of it the names are distinct, no two surrogates in a name are halves
of a character, and the parameters of decimal types have few enough digits. The records that come
out of documents are of this kind, unless a surrogate stands in the document itself.
-/

namespace TableDdl

open Json Outcome Schema

/-! ## Reading a document -/

namespace Document

/-- The test for a document without surrogates of its own. Bytes encode none. -/
def IsScalar : Document → Prop
  | .bytes _ => True
  | .text t => Json.IsScalar t

theorem isScalar_of_decode {document : Document} {t : Text} (scalar : document.IsScalar)
    (decoded : document.decode = .ok t) : Json.IsScalar t := by
  cases document with
  | bytes content =>
    simp only [decode] at decoded
    split at decoded
    · cases decoded
      exact isScalar_map_scalar _
    · cases decoded
  | text content =>
    cases decoded
    exact scalar

theorem load_eq_ok_iff {document : Document} {v : Json} :
    document.load = .ok v ↔ ∃ t, document.decode = .ok t ∧ Json.read t = .ok v := by
  unfold load
  cases document.decode with
  | error cause => simp
  | ok t =>
    simp only [Except.ok.injEq, exists_eq_left']
    cases Json.read t with
    | ok value => simp
    | error e => cases e <;> simp

theorem buildRecord_outcome_eq_ok_iff {overlay : Option Overlay} {document : Document}
    {r : Record} :
    (document.buildRecord overlay).outcome = .ok r ↔
      ∃ v, document.load = .ok v ∧ (recordOf overlay v).outcome = .ok r := by
  rw [buildRecord, Traced.outcome_bind, bind_eq_ok_iff]
  simp only [outcome_ofExcept, Traced.outcome_mapError, mapError_eq_ok_iff]

end Document

/-! ## Reading back what was written -/

namespace Schema.Record

/-- The text of the document that is written from a record. -/
def text (r : Record) : Text :=
  write (encode r.toType)

/-- The document that is written from a record is read back to this record, as a text and as the
bytes of this text. -/
def ReadsBack (r : Record) : Prop :=
  ((Document.text r.text).buildRecord none).outcome = .ok r ∧
    ∃ bytes, Utf8.encodeText r.text = .ok bytes ∧
      ((Document.bytes bytes).buildRecord none).outcome = .ok r

theorem readsBack_of_isRegular {r : Record} (regular : r.toType.IsRegular IsJoined) :
    r.ReadsBack := by
  have writable := isWritable_encode r.toType regular
  have readBack : Json.read r.text = .ok (encode r.toType) := read_write writable
  have described : (recordOf none (encode r.toType)).outcome = .ok r :=
    read_of_describesDocument (describesDocument_none_iff.2 (describes_encode r.toType))
  obtain ⟨cs, chars⟩ := exists_chars_of_isAscii (isAscii_write writable)
  refine ⟨?_, Utf8.encode cs, ?_, ?_⟩
  · exact Document.buildRecord_outcome_eq_ok_iff.mpr
      ⟨_, Document.load_eq_ok_iff.mpr ⟨r.text, rfl, readBack⟩, described⟩
  · rw [text, chars]
    exact Utf8.encodeText_map_scalar cs
  · have decoded : (Document.bytes (Utf8.encode cs)).decode = .ok r.text := by
      rw [Document.decode, Utf8.decode_encode, text, chars]
    exact Document.buildRecord_outcome_eq_ok_iff.mpr
      ⟨_, Document.load_eq_ok_iff.mpr ⟨r.text, decoded, readBack⟩, described⟩

/-- The record of a document is regular, with names that are whatever the texts of the document
are. -/
theorem isRegular_of_buildRecord {names : Text → Prop} {document : Document} {t : Text} {r : Record}
    (decoded : document.decode = .ok t)
    (texts : ∀ token ∈ tokens t, ∀ name, token.lexeme = .text name → names name)
    (accepted : (document.buildRecord none).outcome = .ok r) : r.toType.IsRegular names := by
  obtain ⟨v, loaded, read⟩ := Document.buildRecord_outcome_eq_ok_iff.mp accepted
  obtain ⟨t', decoded', value⟩ := Document.load_eq_ok_iff.mp loaded
  rw [decoded, Except.ok.injEq] at decoded'
  rw [← decoded'] at value
  exact isRegular_of_describes r.toType
    (describesDocument_none_iff.1 (describesDocument_of_read read)) (isRegular_of_read texts value)

/-- The record of a document without surrogates of its own has joined names. -/
theorem isRegular_of_isScalar {document : Document} {r : Record} (scalar : document.IsScalar)
    (accepted : (document.buildRecord none).outcome = .ok r) : r.toType.IsRegular IsJoined := by
  obtain ⟨v, loaded, -⟩ := Document.buildRecord_outcome_eq_ok_iff.mp accepted
  obtain ⟨t, decoded, -⟩ := Document.load_eq_ok_iff.mp loaded
  exact isRegular_of_buildRecord decoded
    (isJoined_of_mem_tokens (Document.isScalar_of_decode scalar decoded)) accepted

theorem readsBack_iff (r : Record) : r.ReadsBack ↔ r.toType.IsRegular IsJoined := by
  constructor
  · intro readsBack
    obtain ⟨-, bytes, -, accepted⟩ := readsBack
    have scalar : (Document.bytes bytes).IsScalar := trivial
    exact isRegular_of_isScalar scalar accepted
  · exact readsBack_of_isRegular

/-- A record whose names are distinct rows of characters, and whose parameters have few digits, is
read back from the document that is written from it. More generally this holds exactly for the
records with distinct joined names and few digits. Every accepted document has a record with
distinct names and few digits, and unless a surrogate stands in the document, this record is read
back. -/
theorem written_record_is_read_back :
    (∀ r : Record, r.toType.IsRegular IsScalar → r.ReadsBack) ∧
      (∀ r : Record, r.ReadsBack ↔ r.toType.IsRegular IsJoined) ∧
        ∀ (document : Document) (r : Record), (document.buildRecord none).outcome = .ok r →
          r.toType.IsRegular (fun _ => True) ∧ (document.IsScalar → r.ReadsBack) := by
  refine ⟨?_, readsBack_iff, ?_⟩
  · intro r regular
    exact readsBack_of_isRegular (FieldType.IsRegular.imp (fun _ => IsScalar.isJoined) _ regular)
  · intro document r accepted
    obtain ⟨v, loaded, -⟩ := Document.buildRecord_outcome_eq_ok_iff.mp accepted
    obtain ⟨t, decoded, -⟩ := Document.load_eq_ok_iff.mp loaded
    refine ⟨isRegular_of_buildRecord decoded (fun _ _ _ _ => trivial) accepted, fun scalar => ?_⟩
    exact readsBack_of_isRegular (isRegular_of_isScalar scalar accepted)

/-- A record with fields that are named like keywords, and one without a name. -/
def keywordNames : Record where
  form := .implicit
  fields :=
    .more "type" (.primitive .string) <|
    .more "properties"
      (.record .implicit
        (.more "type" (.record .explicit (.last "properties" (.primitive .long)))
          (.last "" (.decimal 38 (-2))))) <|
    .last "items" (.array (.map (.primitive .date)
      (.record .explicit (.more "key" (.primitive .number) (.last "value" (.primitive .boolean))))))

theorem keywordNames_is_read_back :
    keywordNames.toType.IsRegular IsScalar ∧ keywordNames.ReadsBack ∧
      ∃ bytes, ((Document.bytes bytes).buildRecord none).outcome = .ok keywordNames ∧
        (Document.bytes bytes).IsScalar := by
  have name (s : String) : IsScalar (Text.ofString s) := isScalar_map_scalar s.toList
  have regular : keywordNames.toType.IsRegular IsScalar :=
    ⟨by decide, name _, trivial, name _,
      ⟨by decide, name _, ⟨by decide, name _, trivial⟩, name _, by decide, by decide⟩,
      name _, trivial, by decide, name _, trivial, name _, trivial⟩
  have readsBack := written_record_is_read_back.1 keywordNames regular
  obtain ⟨-, bytes, -, accepted⟩ := readsBack
  exact ⟨regular, (written_record_is_read_back.2.2 _ keywordNames accepted).2 trivial, bytes,
    accepted, trivial⟩

end Schema.Record

end TableDdl
