import TableDdl.Proofs.Json.ReadValue
import TableDdl.Proofs.Json.RoundTrip
import TableDdl.Proofs.Schema.Grammar

/-!
# Definitions of types

Every type has a definition that describes it, whatever its fields are named. The definition of a
type with distinct names and few digits is a value that can be written; a value that was read
describes such a type.
-/

namespace TableDdl.Schema

open Json Outcome

/-! ## Writing a definition -/

mutual

/-- The definition of a type. -/
def encode : FieldType → Json
  | .primitive kind => .object [("type", .text kind.word)]
  | .decimal precision scale =>
    .object [("type", .text "decimal"),
      ("properties", .object [("precision", .int precision), ("scale", .int scale)])]
  | .array item => .object [("type", .text "array"), ("items", encode item)]
  | .map key value =>
    .object [("type", .text "map"),
      ("properties", .object [("key", encode key), ("value", encode value)])]
  | .record .explicit fields =>
    .object [("type", .text "object"), ("properties", .object (encodeFields fields))]
  | .record .implicit fields => .object [("properties", .object (encodeFields fields))]

/-- The definitions of fields under their names. -/
def encodeFields : Fields → Members
  | .last name type => [(name, encode type)]
  | .more name type others => (name, encode type) :: encodeFields others

end

mutual

/-- A type is described by its definition. -/
theorem describes_encode : (t : FieldType) → Describes (encode t) t
  | .primitive _ => .primitive rfl
  | .decimal precision scale => .decimal rfl rfl rfl rfl (.int precision) (.int scale)
  | .array item => .array rfl rfl (describes_encode item)
  | .map key value => .map rfl rfl rfl rfl (describes_encode key) (describes_encode value)
  | .record .explicit fields => .object rfl rfl (describesFields_encodeFields fields)
  | .record .implicit fields =>
    .grouping (Or.inl rfl) (Or.inl rfl) (describesFields_encodeFields fields)

theorem describesFields_encodeFields :
    (fields : Fields) → DescribesFields (encodeFields fields) fields
  | .last _ type => .last (describes_encode type)
  | .more _ type others => .more (describes_encode type) (describesFields_encodeFields others)

end

/-! ## Regular types -/

mutual

/-- `FieldType.IsRegular names t`: the fields of every record in `t` have distinct names, which
satisfy `names`, and the parameters of every decimal type have few digits. -/
def FieldType.IsRegular (names : Text → Prop) : FieldType → Prop
  | .primitive _ => True
  | .decimal precision scale => FewDigits precision ∧ FewDigits scale
  | .array item => item.IsRegular names
  | .map key value => key.IsRegular names ∧ value.IsRegular names
  | .record _ fields => fields.names.Nodup ∧ fields.IsRegular names

/-- The same of the names and types of fields. -/
def Fields.IsRegular (names : Text → Prop) : Fields → Prop
  | .last name type => names name ∧ type.IsRegular names
  | .more name type others => names name ∧ type.IsRegular names ∧ others.IsRegular names

end

mutual

theorem FieldType.IsRegular.imp {names names' : Text → Prop}
    (weaker : ∀ name, names name → names' name) :
    (t : FieldType) → t.IsRegular names → t.IsRegular names'
  | .primitive _, _ => trivial
  | .decimal _ _, few => few
  | .array item, regular => FieldType.IsRegular.imp weaker item regular
  | .map key value, regular =>
    ⟨FieldType.IsRegular.imp weaker key regular.1, FieldType.IsRegular.imp weaker value regular.2⟩
  | .record _ fields, regular => ⟨regular.1, Fields.IsRegular.imp weaker fields regular.2⟩

theorem Fields.IsRegular.imp {names names' : Text → Prop}
    (weaker : ∀ name, names name → names' name) :
    (fields : Fields) → fields.IsRegular names → fields.IsRegular names'
  | .last name type, regular =>
    ⟨weaker name regular.1, FieldType.IsRegular.imp weaker type regular.2⟩
  | .more name type others, regular =>
    ⟨weaker name regular.1, FieldType.IsRegular.imp weaker type regular.2.1,
      Fields.IsRegular.imp weaker others regular.2.2⟩

end

/-! ## A regular type has a regular definition -/

theorem isJoined_ofString (s : String) : IsJoined (Text.ofString s) :=
  (isScalar_map_scalar s.toList).isJoined

theorem keys_encodeFields (fields : Fields) : (encodeFields fields).keys = fields.names := by
  induction fields using Fields.rec (motive_1 := fun _ => True) with
  | last name type _ => rw [encodeFields, Fields.names, Fields.toList]; rfl
  | more name type others _ ih =>
    rw [encodeFields, Fields.names, Fields.toList, List.map_cons, ← Fields.names, ← ih]
    rfl
  | primitive | decimal | array | map | record => trivial

/-- The values that are written: they have no fractions, and their texts are joined. -/
abbrev IsWritable (v : Json) : Prop :=
  v.IsRegular IsJoined (fun _ => False)

theorem isWritable_one {key : String} {v : Json} (writable : IsWritable v) :
    IsWritable (.object [((key : Text), v)]) := by
  refine .of_members (by simp [Members.keys]) ?_
  intro member mem
  rw [List.mem_singleton.mp mem]
  exact ⟨isJoined_ofString key, writable⟩

theorem isWritable_two {key key' : String} {v v' : Json}
    (distinct : Text.ofString key ≠ Text.ofString key') (writable : IsWritable v)
    (writable' : IsWritable v') :
    IsWritable (.object [((key : Text), v), ((key' : Text), v')]) := by
  refine .of_members (by simpa [Members.keys] using distinct) ?_
  intro member mem
  simp only [List.mem_cons, List.not_mem_nil, or_false] at mem
  rcases mem with rfl | rfl
  · exact ⟨isJoined_ofString key, writable⟩
  · exact ⟨isJoined_ofString key', writable'⟩

mutual

/-- The definition of a regular type can be written. -/
theorem isWritable_encode : (t : FieldType) → t.IsRegular IsJoined → IsWritable (encode t)
  | .primitive kind, _ => isWritable_one (.text (isJoined_ofString kind.word))
  | .decimal _ _, few =>
    isWritable_two (by decide) (.text (isJoined_ofString "decimal"))
      (isWritable_two (by decide) (.int few.1) (.int few.2))
  | .array item, regular =>
    isWritable_two (by decide) (.text (isJoined_ofString "array")) (isWritable_encode item regular)
  | .map key value, regular => by
    have writableKey := isWritable_encode key regular.1
    have writableValue := isWritable_encode value regular.2
    exact isWritable_two (by decide) (.text (isJoined_ofString "map"))
      (isWritable_two (by decide) writableKey writableValue)
  | .record form fields, regular => by
    have distinct : (encodeFields fields).keys.Nodup := by
      rw [keys_encodeFields]
      exact regular.1
    have writable : IsWritable (.object (encodeFields fields)) :=
      .of_members distinct (isWritable_of_mem_encodeFields fields regular.2)
    cases form with
    | explicit =>
      exact isWritable_two (by decide) (.text (isJoined_ofString "object")) writable
    | implicit => exact isWritable_one writable

theorem isWritable_of_mem_encodeFields : (fields : Fields) → fields.IsRegular IsJoined →
    ∀ member ∈ encodeFields fields, IsJoined member.1 ∧ IsWritable member.2
  | .last name type, regular => by
    intro member mem
    rw [List.mem_singleton.mp mem]
    exact ⟨regular.1, isWritable_encode type regular.2⟩
  | .more name type others, regular => by
    intro member mem
    rcases List.mem_cons.mp mem with rfl | mem
    · exact ⟨regular.1, isWritable_encode type regular.2.1⟩
    · exact isWritable_of_mem_encodeFields others regular.2.2 member mem

end

/-! ## A regular definition describes a regular type -/

section Described

variable {names : Text → Prop}

/-- The integers of the binary64 format have few digits. -/
theorem fewDigits_of_toInt? {x : Binary64} {n : Int} (inRange : x.InRange)
    (found : x.toInt? = some n) : FewDigits n :=
  fewDigits_iff.mpr (Binary64.natAbs_lt_pow_ten inRange found (by decide))

theorem fewDigits_of_isParameter {v : Json} {n : Int} (parameter : IsParameter v n)
    (regular : v.IsRegular names Binary64.InRange) : FewDigits n := by
  cases parameter with
  | int n =>
    cases regular with
    | int few => exact few
  | real equal =>
    cases regular with
    | real inRange => exact fewDigits_of_toInt? inRange (Binary64.toInt?_eq_some_iff.2 equal)
  | text found equal =>
    exact fewDigits_of_toInt? (Binary64.ofText?_inRange found)
      (Binary64.toInt?_eq_some_iff.2 equal)

theorem keys_of_describesFields {members : Members} {fields : Fields}
    (describes : DescribesFields members fields) : members.keys = fields.names := by
  induction fields using Fields.rec (motive_1 := fun _ => True) generalizing members with
  | last name type _ =>
    cases describes with
    | last describes => rfl
  | more name type others _ ih =>
    cases describes with
    | more describes describesOthers =>
      rw [Members.keys, List.map_cons, ← Members.keys, ih describesOthers]
      rfl
  | primitive | decimal | array | map | record => trivial

mutual

/-- The type that a regular definition describes is regular. -/
theorem isRegular_of_describes : (t : FieldType) → {v : Json} → Describes v t →
    v.IsRegular names Binary64.InRange → t.IsRegular names := by
  intro t v describes regular
  match t with
  | .primitive kind => trivial
  | .decimal precision scale =>
    cases describes with
    | decimal _ found precisionFound scaleFound precision scale =>
      have properties := regular.get? found
      exact ⟨fewDigits_of_isParameter precision (properties.get? precisionFound),
        fewDigits_of_isParameter scale (properties.get? scaleFound)⟩
  | .array item =>
    cases describes with
    | array _ found describes => exact isRegular_of_describes item describes (regular.get? found)
  | .map key value =>
    cases describes with
    | map _ found keyFound valueFound describesKey describesValue =>
      have properties := regular.get? found
      exact ⟨isRegular_of_describes key describesKey (properties.get? keyFound),
        isRegular_of_describes value describesValue (properties.get? valueFound)⟩
  | .record .explicit fields =>
    cases describes with
    | object _ found describes =>
      have properties := regular.get? found
      exact ⟨keys_of_describesFields describes ▸ properties.nodup,
        isRegular_of_describesFields fields describes fun _ => properties.of_mem⟩
  | .record .implicit fields =>
    cases describes with
    | @grouping _ members _ _ inside describes =>
      have inner : IsRegular names Binary64.InRange (.object members) := by
        rcases inside with found | ⟨-, rfl⟩
        · exact regular.get? found
        · exact regular
      exact ⟨keys_of_describesFields describes ▸ inner.nodup,
        isRegular_of_describesFields fields describes fun _ => inner.of_mem⟩

theorem isRegular_of_describesFields : (fields : Fields) → {members : Members} →
    DescribesFields members fields →
    (∀ member ∈ members, names member.1 ∧ member.2.IsRegular names Binary64.InRange) →
    fields.IsRegular names := by
  intro fields members describes regular
  match fields with
  | .last name type =>
    cases describes with
    | last describes =>
      have own := regular _ List.mem_cons_self
      exact ⟨own.1, isRegular_of_describes type describes own.2⟩
  | .more name type others =>
    cases describes with
    | more describes describesOthers =>
      have own := regular _ List.mem_cons_self
      exact ⟨own.1, isRegular_of_describes type describes own.2,
        isRegular_of_describesFields others describesOthers fun member mem =>
          regular member (List.mem_cons_of_mem _ mem)⟩

end

end Described

end TableDdl.Schema
