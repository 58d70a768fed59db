import TableDdl.Proofs.Document.Agreement
import TableDdl.Proofs.Json.ObjectText

/-!
# The order of declarations

The fields of a record come out in the order in which its text declares them. A key that is declared
again keeps its place and has the last definition; no other field is lost, and none comes out twice.
This holds of the columns of a document and of the fields of every record inside of one, since a
record has the same texts in either place (`columns_in_declaration_order`).
-/

namespace TableDdl

open Column Json Outcome Schema

/-! ## Texts of definitions -/

/-- `IsDefinitionText t type`: the text `t` is read as a well-formed definition of a type. -/
def IsDefinitionText (t : Text) (type : FieldType) : Prop :=
  ∃ v, Json.read t = .ok v ∧ Describes v type

/-- The test for members that are texts of values. -/
def AreReadable (members : List (Text × Text)) : Prop :=
  ∀ member ∈ members, ∃ v, Json.read member.2 = .ok v

/-- The test for members without a type keyword: what they give for `type` last is the text of an
object, if they give anything for it. -/
def AreUntyped (members : List (Text × Text)) : Prop :=
  ∀ word, lastGiven? "type" members = some word → ∃ inner, Json.read word = .ok (.object inner)

/-- `IsRecordText form entries t`: the text `t` is a record of a form with the given names and texts
of definitions. The fields of an explicit object stand under `properties`, and so may those of a
grouping; else all members of a grouping are its fields. -/
inductive IsRecordText : Form → List (Text × Text) → Text → Prop
  | explicit {members entries : List (Text × Text)} {t word inner : Text} :
    IsObjectText members t → AreReadable members →
    lastGiven? "type" members = some word → Json.read word = .ok (.text "object") →
    lastGiven? "properties" members = some inner → IsObjectText entries inner →
    IsRecordText .explicit entries t
  | grouping {members entries : List (Text × Text)} {t inner : Text} :
    IsObjectText members t → AreReadable members → AreUntyped members →
    lastGiven? "properties" members = some inner → IsObjectText entries inner →
    IsRecordText .implicit entries t
  | members {entries : List (Text × Text)} {t : Text} :
    IsObjectText entries t → AreUntyped entries → lastGiven? "properties" entries = none →
    IsRecordText .implicit entries t

variable {form : Form} {entries members : List (Text × Text)} {t : Text}
  {type : Text → FieldType}

theorem IsDefinitionText.readable {type : FieldType} (definition : IsDefinitionText t type) :
    ∃ v, Json.read t = .ok v := by
  obtain ⟨v, found, -⟩ := definition
  exact ⟨v, found⟩

theorem areReadable_of_definitions
    (definitions : ∀ entry ∈ entries, IsDefinitionText entry.2 (type entry.2)) :
    AreReadable entries :=
  fun entry mem => (definitions entry mem).readable

theorem overwritten_ne_nil (nonempty : entries ≠ []) : overwritten entries ≠ [] := by
  obtain ⟨entry, others, rfl⟩ := List.exists_cons_of_ne_nil nonempty
  have mem : entry.1 ∈ firstKeys (entry :: others) :=
    mem_firstKeys_iff.mpr ⟨entry, List.mem_cons_self, rfl⟩
  intro nothing
  rw [← map_fst_overwritten, nothing] at mem
  cases mem

/-- The value of a key is the value of the text that was given last for it. -/
theorem get?_entryValues (key : Text) (members : List (Text × Text)) :
    Members.get? key (entryValues (overwritten members)) =
      (lastGiven? key members).map valueOf := by
  rw [entryValues, ← overwritten_map, get?_overwritten, lastGiven?_map]

/-- Definitions describe fields of their names and types, in their order. -/
theorem exists_fields (nonempty : entries ≠ [])
    (definitions : ∀ entry ∈ entries, IsDefinitionText entry.2 (type entry.2)) :
    ∃ fields, DescribesFields (entryValues entries) fields ∧
      fields.toList = entries.map fun entry => (entry.1, type entry.2) := by
  induction entries with
  | nil => exact absurd rfl nonempty
  | cons entry others ih =>
    obtain ⟨⟨v, found, describes⟩, definitions⟩ := List.forall_mem_cons.mp definitions
    rw [← valueOf_eq found] at describes
    cases others with
    | nil => exact ⟨.last entry.1 (type entry.2), .last describes, rfl⟩
    | cons next others =>
      obtain ⟨fields, describesOthers, listed⟩ := ih (List.cons_ne_nil _ _) definitions
      refine ⟨.more entry.1 (type entry.2) fields, .more describes describesOthers, ?_⟩
      rw [Fields.toList, listed, List.map_cons, List.map_cons, List.map_cons]

theorem AreUntyped.isUntyped (untyped : AreUntyped members) :
    IsUntyped (entryValues (overwritten members)) := by
  unfold IsUntyped
  rw [get?_entryValues]
  cases given : lastGiven? "type" members with
  | none => exact Or.inl rfl
  | some word =>
    obtain ⟨inner, found⟩ := untyped word given
    exact Or.inr ⟨inner, congrArg some (valueOf_eq found)⟩

/-- The text of an object of definitions describes fields: one for each distinct name in the order
of the first declarations, each of the type of its last definition. -/
theorem exists_fields_of_isObjectText (object : IsObjectText entries t)
    (definitions : ∀ entry ∈ entries, IsDefinitionText entry.2 (type entry.2)) :
    ∃ fields, Json.read t = .ok (.object (entryValues (overwritten entries))) ∧
      DescribesFields (entryValues (overwritten entries)) fields ∧
      fields.toList = (overwritten entries).map fun entry => (entry.1, type entry.2) := by
  have readable := areReadable_of_definitions definitions
  have left : ∀ entry ∈ overwritten entries, IsDefinitionText entry.2 (type entry.2) :=
    fun entry mem => definitions entry (mem_of_mem_overwritten mem)
  obtain ⟨fields, describes, listed⟩ := exists_fields (overwritten_ne_nil object.ne_nil) left
  exact ⟨fields, read_of_isObjectText object readable, describes, listed⟩

/-- The text of a record is the definition of a record of its form with these fields. -/
theorem IsRecordText.describes (record : IsRecordText form entries t)
    (definitions : ∀ entry ∈ entries, IsDefinitionText entry.2 (type entry.2)) :
    ∃ v fields, Json.read t = .ok v ∧ Describes v (.record form fields) ∧
      fields.toList = (overwritten entries).map fun entry => (entry.1, type entry.2) := by
  cases record with
  | explicit object readable typed isObject inside declared =>
    obtain ⟨fields, found, describes, listed⟩ := exists_fields_of_isObjectText declared definitions
    refine ⟨_, fields, read_of_isObjectText object readable, .object ?_ ?_ describes, listed⟩
    · rw [get?_entryValues, typed, Option.map_some, valueOf_eq isObject]
    · rw [get?_entryValues, inside, Option.map_some, valueOf_eq found]
  | grouping object readable untyped inside declared =>
    obtain ⟨fields, found, describes, listed⟩ := exists_fields_of_isObjectText declared definitions
    refine ⟨_, fields, read_of_isObjectText object readable,
      .grouping untyped.isUntyped (Or.inl ?_) describes, listed⟩
    rw [get?_entryValues, inside, Option.map_some, valueOf_eq found]
  | members declared untyped noProperties =>
    obtain ⟨fields, found, describes, listed⟩ := exists_fields_of_isObjectText declared definitions
    refine ⟨_, fields, found, .grouping untyped.isUntyped (Or.inr ⟨?_, rfl⟩) describes, listed⟩
    rw [get?_entryValues, noProperties, Option.map_none]

/-! ## Columns and fields -/

/-- A field as it stands in a record or a table: its name and the type of its definition. -/
def fieldText (form : Form) (type : Text → FieldType) (entry : Text × Text) : Text :=
  sanitize entry.1 ++ separator form ++ typeText (type entry.2)

theorem fieldsText_of_toList {fields : Fields}
    (listed : fields.toList = entries.map fun entry => (entry.1, type entry.2)) :
    fieldsText form fields = Text.join comma (entries.map (fieldText form type)) := by
  rw [← join_columns, listed, List.map_map, List.map_map]
  rfl

/-- A record as a document compiles to its fields. -/
theorem IsRecordText.compile_outcome (record : IsRecordText form entries t)
    (definitions : ∀ entry ∈ entries, IsDefinitionText entry.2 (type entry.2)) :
    ((Document.text t).compile none).outcome =
      .ok (Text.join ", " ((overwritten entries).map (fieldText form type))) := by
  obtain ⟨v, fields, found, describes, listed⟩ := record.describes definitions
  have loaded : (Document.text t).load = .ok v := Document.load_eq_ok_iff.mpr ⟨t, rfl, found⟩
  have built : ((Document.text t).buildRecord none).outcome = .ok ⟨form, fields⟩ :=
    Document.buildRecord_outcome_eq_ok_iff.mpr ⟨v, loaded,
      read_of_describesDocument (describesDocument_none_iff.mpr describes)⟩
  rw [Document.compile_outcome, built, ok_map, columnList_eq_fieldsText,
    fieldsText_of_toList listed]
  rfl

/-- The columns of a document, and the fields of a record inside of one, come out in the order in
which their names are declared first, each with the type of its last definition. The entries of the
object are the declarations in the order of the text; white space may stand between all tokens, and
the names may be spelled with any escapes. A record inside of a document is the text of a definition
like the document itself. -/
theorem columns_in_declaration_order
    (definitions : ∀ entry ∈ entries, IsDefinitionText entry.2 (type entry.2)) :
    (∀ inner t, IsObjectText entries inner → IsObjectText [("properties", inner)] t →
      ((Document.text t).compile none).outcome =
        .ok (Text.join ", " ((overwritten entries).map fun entry =>
          sanitize entry.1 ++ " " ++ typeText (type entry.2)))) ∧
    ∀ form t, IsRecordText form entries t →
      ((Document.text t).compile none).outcome =
          .ok (Text.join ", " ((overwritten entries).map (fieldText form type))) ∧
        ∃ record, IsDefinitionText t record ∧
          typeText record =
            "struct<" ++ Text.join ", " ((overwritten entries).map (fieldText form type)) ++
              ">" := by
  refine ⟨?properties, fun form t record => ⟨record.compile_outcome definitions, ?nested⟩⟩
  case properties =>
    intro inner t declared object
    have readable : AreReadable [("properties", inner)] :=
      List.forall_mem_singleton.mpr
        ⟨_, read_of_isObjectText declared (areReadable_of_definitions definitions)⟩
    have untyped : AreUntyped [("properties", inner)] := by
      intro word given
      cases given
    have record : IsRecordText .implicit entries t :=
      .grouping object readable untyped rfl declared
    exact record.compile_outcome definitions
  case nested =>
    obtain ⟨v, fields, found, describes, listed⟩ := record.describes definitions
    refine ⟨.record form fields, ⟨v, found, describes⟩, ?_⟩
    rw [typeText, fieldsText_of_toList listed]
    rfl

/-! ## A column that is declared twice -/

/-- The text of a definition with the keyword of a primitive type. -/
def primitiveText (kind : Primitive) : Text :=
  write (.object [("type", .text kind.word)])

theorem isDefinitionText_primitiveText (kind : Primitive) :
    IsDefinitionText (primitiveText kind) (.primitive kind) := by
  have readBack : Json.read (primitiveText kind) = .ok (.object [("type", .text kind.word)]) :=
    read_write (isWritable_one (.text (isJoined_ofString kind.word)))
  exact ⟨_, readBack, .primitive rfl⟩

/-- Three declarations of two columns. -/
def twiceDeclared : List (Text × Text) :=
  [(['a'].map .scalar, primitiveText .string), (['b'].map .scalar, primitiveText .long),
    (['a'].map .scalar, primitiveText .date)]

/-- The types of these definitions. -/
def twiceDeclaredType (t : Text) : FieldType :=
  if t = primitiveText .string then .primitive .string
  else if t = primitiveText .long then .primitive .long
  else .primitive .date

/-- The object of these declarations, in which the last name is spelled by its number. -/
def twiceDeclaredText : Text :=
  "\x7b\"a\":" ++ primitiveText .string ++ ",\n\"b\":" ++ primitiveText .long ++
    ",\n\"\\u0061\":" ++ primitiveText .date ++ "\x7d"

theorem twiceDeclaredText_isObjectText : IsObjectText twiceDeclared twiceDeclaredText := by
  have b : Spells "b" ['b'] := spells_self (by simp)
  have number : Spells "\\u0061" ['a'] := .cons (.number rfl) .nil
  have first := @isMemberText_self ['a'] (by simp) (primitiveText .string)
  have second : IsMemberText ['b'] (primitiveText .long) _ :=
    ⟨"\n", _, [], by decide, b, nofun, rfl⟩
  have third : IsMemberText ['a'] (primitiveText .date) _ :=
    ⟨"\n", _, [], by decide, number, nofun, rfl⟩
  exact ⟨[], _, [], nofun, .more first (.more second (.last third)), nofun, rfl⟩

/-- The document of these declarations. -/
def twiceDeclaredDocument : Text := "\x7b\"properties\":" ++ twiceDeclaredText ++ "\x7d"

theorem twiceDeclared_columns :
    (∀ entry ∈ twiceDeclared, IsDefinitionText entry.2 (twiceDeclaredType entry.2)) ∧
      IsObjectText twiceDeclared twiceDeclaredText ∧
      IsObjectText [("properties", twiceDeclaredText)] twiceDeclaredDocument ∧
      ((Document.text twiceDeclaredDocument).compile none).outcome = .ok "a date, b bigint" := by
  have definitions : ∀ entry ∈ twiceDeclared,
      IsDefinitionText entry.2 (twiceDeclaredType entry.2) := by
    simp only [twiceDeclared, List.forall_mem_cons]
    exact ⟨isDefinitionText_primitiveText .string, isDefinitionText_primitiveText .long,
      isDefinitionText_primitiveText .date, List.forall_mem_nil _⟩
  have member := @isMemberText_self "properties".toList (by simp) twiceDeclaredText
  have object : IsObjectText [("properties", twiceDeclaredText)] twiceDeclaredDocument :=
    ⟨[], _, [], nofun, .last member, nofun, rfl⟩
  have compiled := (columns_in_declaration_order definitions).1 _ _
    twiceDeclaredText_isObjectText object
  exact ⟨definitions, twiceDeclaredText_isObjectText, object, compiled⟩

end TableDdl
