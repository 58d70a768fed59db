import TableDdl.Proofs.Document.Agreement

/-!
# Documents in bytes

A document may be given as bytes or as a text. The bytes of a row of characters are read as the text
of these characters, in every way of reading and with the same failures. All other bytes are refused
before anything of them is read, even if they begin with a whole document.
-/

namespace TableDdl

open Outcome Schema

namespace Document

/-- Two documents that give the same in all ways of reading, and report the same. -/
structure ReadAlike (document document' : Document) : Prop where
  load : document.load = document'.load
  buildRecord : ∀ overlay, document.buildRecord overlay = document'.buildRecord overlay
  columns : ∀ overlay, document.columns overlay = document'.columns overlay
  compile : ∀ overlay, document.compile overlay = document'.compile overlay

/-- A document that is refused with one failure in all ways of reading, and of which nothing is
reported. -/
structure IsRefused (document : Document) (failure : Failure) : Prop where
  load : document.load = .error failure
  buildRecord : ∀ overlay, document.buildRecord overlay = .fail failure
  columns : ∀ overlay, document.columns overlay = .fail failure
  compile : ∀ overlay, document.compile overlay = .fail failure

variable {document document' : Document} {failure : Failure}

/-- What is read of a document depends on its text only. -/
theorem readAlike_of_decode (same : document.decode = document'.decode) :
    ReadAlike document document' := by
  have load : document.load = document'.load := by
    unfold Document.load
    rw [same]
  have built : ∀ overlay, document.buildRecord overlay = document'.buildRecord overlay := by
    intro overlay
    unfold Document.buildRecord
    rw [load]
  refine ⟨load, built, fun overlay => ?_, fun overlay => ?_⟩
  · unfold Document.columns
    rw [built]
  · unfold Document.compile
    rw [built]

/-- Nothing more is read of a document that is not loaded. -/
theorem isRefused_of_load (failed : document.load = .error failure) :
    document.IsRefused failure := by
  have built : ∀ overlay, document.buildRecord overlay = .fail failure := by
    intro overlay
    unfold Document.buildRecord
    rw [failed]
    rfl
  refine ⟨failed, built, fun overlay => ?_, fun overlay => ?_⟩
  · unfold Document.columns
    rw [built]
    rfl
  · unfold Document.compile
    rw [built]
    rfl

theorem decode_bytes_encode (cs : List Char) :
    (Document.bytes (Utf8.encode cs)).decode = (Document.text (cs.map .scalar)).decode := by
  rw [decode, Utf8.decode_encode, decode]

/-- Bytes that are no UTF-8 are refused for these bytes. -/
theorem load_of_malformed {bytes : List UInt8} {malformed : Utf8.Malformed}
    (refused : Utf8.decode bytes = .error malformed) :
    (Document.bytes bytes).load =
      .error (.schema ⟨.documentUnreadable (.bytes malformed), none⟩) := by
  rw [load, decode, refused]

/-- The bytes of characters are read as the text of these characters: they have the same value or
fail alike, with the same places in a complaint. Bytes that are those of no characters are refused
as an unreadable document without a path, whatever they begin with. -/
theorem bytes_are_read_as_text :
    (∀ cs : List Char, ReadAlike (.bytes (Utf8.encode cs)) (.text (cs.map .scalar))) ∧
      ∀ bytes : List UInt8, (∀ cs, bytes ≠ Utf8.encode cs) →
        ∃ e : SchemaError, e.fault.faultClass = .invalidDocument ∧ e.path = none ∧
          IsRefused (.bytes bytes) (.schema e) := by
  refine ⟨fun cs => readAlike_of_decode (decode_bytes_encode cs), ?_⟩
  intro bytes noText
  obtain ⟨malformed, refused⟩ := Utf8.exists_malformed_iff.mpr noText
  have failed := load_of_malformed refused
  exact ⟨⟨.documentUnreadable (.bytes malformed), none⟩, rfl, rfl, isRefused_of_load failed⟩

/-- A whole document with the first byte of a character after it. -/
def cutOffBytes : List UInt8 := oneColumnBytes ++ [0xC3]

/-- The document itself is read as its text, but not with the byte after it. -/
theorem cutOffBytes_are_refused :
    ReadAlike (.bytes oneColumnBytes)
        (.text ("\x7b\"id\": \x7b\"type\": \"string\"\x7d\x7d".toList.map .scalar)) ∧
      (Document.bytes oneColumnBytes).load = .ok oneColumn ∧
      (∀ cs, cutOffBytes ≠ Utf8.encode cs) ∧
      ∃ e : SchemaError, e.fault.faultClass = .invalidDocument ∧ e.path = none ∧
        IsRefused (.bytes cutOffBytes) (.schema e) := by
  obtain ⟨next, eq⟩ := Utf8.decodeFrom_encode_append 0
    "\x7b\"id\": \x7b\"type\": \"string\"\x7d\x7d".toList [0xC3]
  have malformed : Utf8.decode cutOffBytes = .error ⟨next, 1, 0xC3, .truncated⟩ := eq
  have noText : ∀ cs, cutOffBytes ≠ Utf8.encode cs :=
    Utf8.exists_malformed_iff.mp ⟨_, malformed⟩
  exact ⟨bytes_are_read_as_text.1 _, oneColumnBytes_loads, noText,
    bytes_are_read_as_text.2 _ noText⟩

end Document

end TableDdl
