import TableDdl.Proofs.Number.Value
import TableDdl.Proofs.Schema.DocumentOutcome

/-!
# The grammar of schema documents

`Describes` says which definitions are well formed and which type each of them describes, form by
form and without an order of checks; `DescribesDocument` says the same of whole documents under an
overlay. The reading of documents accepts exactly what the grammar derives, with the record that the
grammar assigns.
-/

namespace TableDdl.Schema

open Outcome

/-- `IsParameter v n`: the value `v` may be a parameter of a decimal type and is equal to the
integer `n`. It is an integer, a number without a fraction, or a text that stands for one. -/
inductive IsParameter : Json → Int → Prop
  | int (n : Int) : IsParameter (.int n) n
  | real {x : Binary64} {n : Int} : x.value? = some (n : ℚ) → IsParameter (.real x) n
  | text {t : Text} {x : Binary64} {n : Int} :
    Binary64.ofText? t = some x → x.value? = some (n : ℚ) → IsParameter (.text t) n

/-- `IsGroupingOf members inner`: a definition without a type keyword that has the given members
groups the members `inner`. They are the value of its member `properties`, if it has one, and else
its own. -/
def IsGroupingOf (members inner : Json.Members) : Prop :=
  members.get? "properties" = some (.object inner) ∨
    members.get? "properties" = none ∧ inner = members

mutual

/-- `Describes v t`: the value `v` is a well-formed definition of the type `t`. -/
inductive Describes : Json → FieldType → Prop
  | primitive {members : Json.Members} {kind : Primitive} :
    members.get? "type" = some (.text kind.word) →
    Describes (.object members) (.primitive kind)
  | decimal {members properties : Json.Members} {precision scale : Json} {p s : Int} :
    members.get? "type" = some (.text "decimal") →
    members.get? "properties" = some (.object properties) →
    properties.get? "precision" = some precision → properties.get? "scale" = some scale →
    IsParameter precision p → IsParameter scale s →
    Describes (.object members) (.decimal p s)
  | array {members : Json.Members} {item : Json} {t : FieldType} :
    members.get? "type" = some (.text "array") →
    members.get? "items" = some item → Describes item t →
    Describes (.object members) (.array t)
  | map {members properties : Json.Members} {key value : Json} {k v : FieldType} :
    members.get? "type" = some (.text "map") →
    members.get? "properties" = some (.object properties) →
    properties.get? "key" = some key → properties.get? "value" = some value →
    Describes key k → Describes value v →
    Describes (.object members) (.map k v)
  | object {members properties : Json.Members} {fields : Fields} :
    members.get? "type" = some (.text "object") →
    members.get? "properties" = some (.object properties) →
    DescribesFields properties fields →
    Describes (.object members) (.record .explicit fields)
  | grouping {members inner : Json.Members} {fields : Fields} :
    IsUntyped members → IsGroupingOf members inner → DescribesFields inner fields →
    Describes (.object members) (.record .implicit fields)

/-- `DescribesFields members fields`: there is at least one member, and every member is the
well-formed definition of the field of its name. -/
inductive DescribesFields : Json.Members → Fields → Prop
  | last {name : Text} {v : Json} {t : FieldType} :
    Describes v t → DescribesFields [(name, v)] (.last name t)
  | more {name : Text} {v : Json} {t : FieldType} {rest : Json.Members} {others : Fields} :
    Describes v t → DescribesFields rest others →
    DescribesFields ((name, v) :: rest) (.more name t others)

end

/-- `Replaces overlay key v name v'`: in the column `key` with the definition `v` the overlay puts
the column `name` with the definition `v'`. A column without an entry stays; an entry has to be an
object with one member, whose value is an object. -/
inductive Replaces (overlay : Option Overlay) : Text → Json → Text → Json → Prop
  | kept {key : Text} {v : Json} :
    overlay.bind (·.get? key) = none → Replaces overlay key v key v
  | replaced {key name : Text} {v : Json} {definition : Json.Members} :
    overlay.bind (·.get? key) = some (.object [(name, .object definition)]) →
    Replaces overlay key v name (.object definition)

/-- `DescribesColumns overlay members fields`: there is at least one member, and every member, after
its replacement by the overlay, is the well-formed definition of a field. -/
inductive DescribesColumns (overlay : Option Overlay) : Json.Members → Fields → Prop
  | last {key name : Text} {v v' : Json} {t : FieldType} :
    Replaces overlay key v name v' → Describes v' t →
    DescribesColumns overlay [(key, v)] (.last name t)
  | more {key name : Text} {v v' : Json} {t : FieldType} {rest : Json.Members} {others : Fields} :
    Replaces overlay key v name v' → Describes v' t → DescribesColumns overlay rest others →
    DescribesColumns overlay ((key, v) :: rest) (.more name t others)

/-- `DescribesDocument overlay v r`: the value `v` is a well-formed document of the record `r`. An
explicit object is one whatever the overlay is; the members of a grouping are replaced first. -/
inductive DescribesDocument (overlay : Option Overlay) : Json → Record → Prop
  | object {v : Json} {fields : Fields} :
    Describes v (.record .explicit fields) → DescribesDocument overlay v ⟨.explicit, fields⟩
  | grouping {members inner : Json.Members} {fields : Fields} :
    IsUntyped members → IsGroupingOf members inner → DescribesColumns overlay inner fields →
    DescribesDocument overlay (.object members) ⟨.implicit, fields⟩

/-! ## Parameters of decimal types -/

theorem integerOf_eq_ok_iff {parameter : Parameter} {value : Json} {n : Int} :
    integerOf parameter value = .ok n ↔ IsParameter value n := by
  constructor
  · intro read
    cases value with
    | int m =>
      cases read
      exact .int n
    | real x =>
      simp only [integerOf] at read
      split at read
      · rename_i m whole
        cases read
        exact .real (Binary64.toInt?_eq_some_iff.1 whole)
      · cases read
    | text t =>
      cases found : Binary64.ofText? t with
      | none =>
        simp only [integerOf, found] at read
        cases read
      | some x =>
        simp only [integerOf, found] at read
        split at read
        · rename_i m whole
          cases read
          exact .text found (Binary64.toInt?_eq_some_iff.1 whole)
        · cases read
    | null | bool | array | object => cases read
  · intro isParameter
    cases isParameter with
    | int n => rfl
    | real whole => simp [integerOf, Binary64.toInt?_eq_some_iff.2 whole]
    | text found whole => simp [integerOf, found, Binary64.toInt?_eq_some_iff.2 whole]

theorem decimalOf_eq_ok_iff {members : Json.Members} {t : FieldType} :
    decimalOf members = .ok t ↔
      ∃ (properties : Json.Members) (precision scale : Json) (p s : Int),
        members.get? "properties" = some (.object properties) ∧
        properties.get? "precision" = some precision ∧ properties.get? "scale" = some scale ∧
        IsParameter precision p ∧ IsParameter scale s ∧ t = .decimal p s := by
  constructor
  · intro read
    obtain ⟨properties, found, read⟩ := bind_eq_ok_iff.1 read
    split at read
    · cases read
    · rename_i precision precisionFound
      split at read
      · cases read
      · rename_i scale scaleFound
        obtain ⟨p, precisionRead, read⟩ := bind_eq_ok_iff.1 read
        obtain ⟨s, scaleRead, read⟩ := bind_eq_ok_iff.1 read
        exact ⟨properties, precision, scale, p, s, (propertiesOf_eq_ok_iff.1 found).1,
          precisionFound, scaleFound, integerOf_eq_ok_iff.1 precisionRead,
          integerOf_eq_ok_iff.1 scaleRead, (Except.ok.inj read).symm⟩
  · rintro ⟨properties, precision, scale, p, s, found, precisionFound, scaleFound, isP, isS, rfl⟩
    refine bind_eq_ok_iff.2
      ⟨properties, propertiesOf_eq_ok_iff.2 ⟨found, ne_nil_of_get? precisionFound⟩, ?_⟩
    simp only [precisionFound, scaleFound]
    exact bind_eq_ok_iff.2 ⟨p, integerOf_eq_ok_iff.2 isP,
      bind_eq_ok_iff.2 ⟨s, integerOf_eq_ok_iff.2 isS, rfl⟩⟩

/-! ## Definitions -/

/-- What the grammar asks of a level for a type. -/
def Level.Describes : Level → FieldType → Prop
  | .leaf type, t => type = t
  | .array item, t => ∃ i, Schema.Describes item i ∧ .array i = t
  | .map key value, t => ∃ k, Schema.Describes key k ∧ ∃ v, Schema.Describes value v ∧ .map k v = t
  | .record form members, t => ∃ fields, DescribesFields members fields ∧ .record form fields = t

theorem DescribesFields.ne_nil {members : Json.Members} {fields : Fields}
    (describes : DescribesFields members fields) : members ≠ [] := by
  cases describes <;> exact List.cons_ne_nil _ _

/-- A level with a type keyword is what the grammar has under that keyword. -/
theorem describes_of_levelOfKeyword {members : Json.Members} {keyword : Keyword} {level : Level}
    {t : FieldType} (typed : members.get? "type" = some (.text keyword.word))
    (found : levelOfKeyword members keyword = .ok level) (describes : level.Describes t) :
    Describes (.object members) t := by
  cases keyword with
  | primitive kind =>
    cases found
    obtain rfl := describes
    exact .primitive typed
  | decimal =>
    obtain ⟨type, decimal, rfl⟩ := map_eq_ok_iff.1 found
    obtain rfl := describes
    obtain ⟨properties, precision, scale, p, s, inside, precisionFound, scaleFound, isP, isS,
      rfl⟩ := decimalOf_eq_ok_iff.1 decimal
    exact .decimal typed inside precisionFound scaleFound isP isS
  | array =>
    simp only [levelOfKeyword] at found
    split at found
    · cases found
    · rename_i item itemFound
      cases found
      obtain ⟨i, describesItem, rfl⟩ := describes
      exact .array typed itemFound describesItem
  | map =>
    obtain ⟨properties, key, value, inside, keyFound, valueFound, rfl⟩ :=
      levelOfMap_eq_ok_iff.1 found
    obtain ⟨k, describesKey, v, describesValue, rfl⟩ := describes
    exact .map typed (propertiesOf_eq_ok_iff.1 inside).1 keyFound valueFound describesKey
      describesValue
  | object =>
    obtain ⟨inner, inside, rfl⟩ := map_eq_ok_iff.1 found
    obtain ⟨fields, describesFields, rfl⟩ := describes
    exact .object typed (propertiesOf_eq_ok_iff.1 inside).1 describesFields
  | null => cases found

theorem describes_of_levelOf {v : Json} {level : Level} {t : FieldType}
    (found : levelOf v = .ok level) (describes : level.Describes t) : Describes v t := by
  cases v with
  | object members =>
    rcases levelOf_object_eq_ok_iff.1 found with ⟨untyped, grouping⟩ | ⟨keyword, typed, found⟩
    · obtain ⟨inner, inside, -, rfl⟩ := levelOfGrouping_eq_ok_iff.1 grouping
      obtain ⟨fields, describesFields, rfl⟩ := describes
      exact .grouping untyped (groupingMembers_eq_ok_iff.1 inside) describesFields
    · exact describes_of_levelOfKeyword typed found describes
  | null | bool | int | real | text | array => cases found

/-- The level of a definition under a keyword. -/
theorem levelOf_of_keyword {members : Json.Members} (keyword : Keyword) {level : Level}
    (typed : members.get? "type" = some (.text keyword.word))
    (found : levelOfKeyword members keyword = .ok level) : levelOf (.object members) = .ok level :=
  levelOf_object_eq_ok_iff.2 (Or.inr ⟨keyword, typed, found⟩)

theorem levelOf_of_describes {v : Json} {t : FieldType} (describes : Describes v t) :
    ∃ level, levelOf v = .ok level ∧ level.Describes t := by
  cases describes with
  | @primitive members kind typed =>
    exact ⟨.leaf (.primitive kind), levelOf_of_keyword (.primitive kind) typed rfl, rfl⟩
  | @decimal members properties precision scale p s typed inside precisionFound scaleFound isP
      isS =>
    have read : decimalOf members = .ok (.decimal p s) := decimalOf_eq_ok_iff.2
      ⟨properties, precision, scale, p, s, inside, precisionFound, scaleFound, isP, isS, rfl⟩
    have level : levelOfKeyword members .decimal = .ok (.leaf (.decimal p s)) :=
      map_eq_ok_iff.2 ⟨_, read, rfl⟩
    exact ⟨.leaf (.decimal p s), levelOf_of_keyword .decimal typed level, rfl⟩
  | @array members item i typed itemFound describesItem =>
    have level : levelOfKeyword members .array = .ok (.array item) := by
      simp only [levelOfKeyword, itemFound]
    exact ⟨.array item, levelOf_of_keyword .array typed level, i, describesItem, rfl⟩
  | @map members properties key value k v typed inside keyFound valueFound describesKey
      describesValue =>
    have read : propertiesOf .map members = .ok properties :=
      propertiesOf_eq_ok_iff.2 ⟨inside, ne_nil_of_get? keyFound⟩
    have level : levelOfKeyword members .map = .ok (.map key value) :=
      levelOfMap_eq_ok_iff.2 ⟨properties, key, value, read, keyFound, valueFound, rfl⟩
    exact ⟨.map key value, levelOf_of_keyword .map typed level, k, describesKey, v, describesValue,
      rfl⟩
  | @object members properties fields typed inside describesFields =>
    have read : propertiesOf .object members = .ok properties :=
      propertiesOf_eq_ok_iff.2 ⟨inside, describesFields.ne_nil⟩
    have level : levelOfKeyword members .object = .ok (.record .explicit properties) :=
      map_eq_ok_iff.2 ⟨_, read, rfl⟩
    exact ⟨.record .explicit properties, levelOf_of_keyword .object typed level, fields,
      describesFields, rfl⟩
  | @grouping members inner fields untyped inside describesFields =>
    have read : groupingMembers members = .ok inner := groupingMembers_eq_ok_iff.2 inside
    have grouping : levelOfGrouping members = .ok (.record .implicit inner) :=
      levelOfGrouping_eq_ok_iff.2 ⟨inner, read, describesFields.ne_nil, rfl⟩
    have level := levelOf_object_eq_ok_iff.2 (Or.inl ⟨untyped, grouping⟩)
    exact ⟨.record .implicit inner, level, fields, describesFields, rfl⟩

theorem inside_eq_ok_iff {step : Step} {α : Type} {part : Except PlacedFault α} {a : α} :
    step.inside part = .ok a ↔ part = .ok a :=
  mapError_eq_ok_iff

/-- The fields of a record are accepted with the types of the grammar if this holds of each of
them. -/
theorem fieldsOf_eq_ok_iff_of {members : Json.Members} {fields : Fields}
    (each : ∀ member ∈ members, ∀ t, typeOf member.2 = .ok t ↔ Describes member.2 t) :
    fieldsOf members = .ok fields ↔ DescribesFields members fields := by
  induction members generalizing fields with
  | nil =>
    rw [fieldsOf]
    constructor
    · intro eq
      cases eq
    · intro describes
      exact absurd rfl describes.ne_nil
  | cons member rest ih =>
    obtain ⟨name, definition⟩ := member
    have first := each _ List.mem_cons_self
    cases rest with
    | nil =>
      simp only [fieldsOf_singleton, map_eq_ok_iff, inside_eq_ok_iff, first]
      constructor
      · rintro ⟨t, describes, rfl⟩
        exact .last describes
      · intro describes
        cases describes with
        | last describes => exact ⟨_, describes, rfl⟩
        | more _ others => exact absurd rfl others.ne_nil
    | cons next rest =>
      have others := fun fields =>
        @ih fields fun member mem => each member (List.mem_cons_of_mem _ mem)
      simp only [fieldsOf_cons, bind_eq_ok_iff, map_eq_ok_iff, inside_eq_ok_iff, first, others]
      constructor
      · rintro ⟨t, describes, fields, describesFields, rfl⟩
        exact .more describes describesFields
      · intro describes
        cases describes with
        | more describes describesFields => exact ⟨_, describes, _, describesFields, rfl⟩

/-- A definition is accepted with a type exactly if the grammar derives it with this type. -/
theorem typeOf_eq_ok_iff {v : Json} {t : FieldType} : typeOf v = .ok t ↔ Describes v t := by
  induction v using induction_on_parts generalizing t with
  | step v ih =>
    rw [typeOf_eq]
    cases found : levelOf v with
    | error fault =>
      constructor
      · exact nofun
      · intro describes
        obtain ⟨level, ok, -⟩ := levelOf_of_describes describes
        rw [found] at ok
        cases ok
    | ok level =>
      have describes_iff : Describes v t ↔ level.Describes t := by
        constructor
        · intro describes
          obtain ⟨level', ok, describes⟩ := levelOf_of_describes describes
          cases found.symm.trans ok
          exact describes
        · exact describes_of_levelOf found
      have parts : ∀ part ∈ level.parts, ∀ t, typeOf part.2 = .ok t ↔ Describes part.2 t :=
        fun part mem t => ih part (partsOf_of_levelOf found ▸ mem)
      rw [describes_iff]
      cases level with
      | leaf type => simp only [Except.ok.injEq, Level.Describes]
      | array item =>
        have item_iff : ∀ t, typeOf item = .ok t ↔ Describes item t :=
          parts (.item, item) List.mem_cons_self
        simp only [map_eq_ok_iff, inside_eq_ok_iff, item_iff, Level.Describes]
      | map key value =>
        have key_iff : ∀ t, typeOf key = .ok t ↔ Describes key t :=
          parts (.part .key, key) List.mem_cons_self
        have value_iff : ∀ t, typeOf value = .ok t ↔ Describes value t :=
          parts (.part .value, value) (List.mem_cons_of_mem _ List.mem_cons_self)
        simp only [bind_eq_ok_iff, inside_eq_ok_iff, key_iff, value_iff, Level.Describes,
          Except.ok.injEq]
      | record form members =>
        have fields_iff : ∀ fields,
            fieldsOf members = .ok fields ↔ DescribesFields members fields :=
          fun fields => fieldsOf_eq_ok_iff_of fun member mem =>
            parts (.field member.1, member.2) (List.mem_map_of_mem mem)
        simp only [map_eq_ok_iff, fields_iff, Level.Describes]

theorem fieldsOf_eq_ok_iff {members : Json.Members} {fields : Fields} :
    fieldsOf members = .ok fields ↔ DescribesFields members fields :=
  fieldsOf_eq_ok_iff_of fun _ _ _ => typeOf_eq_ok_iff

/-! ## Documents -/

theorem entryOf_eq_ok_iff {entry definition : Json} {name : Text} :
    Overlay.entryOf entry = .ok (name, definition) ↔
      ∃ inner, entry = .object [(name, .object inner)] ∧ definition = .object inner := by
  constructor
  · intro read
    unfold Overlay.entryOf at read
    split at read
    · rename_i inner
      cases read
      exact ⟨inner, rfl, rfl⟩
    · cases read
    · cases read
  · rintro ⟨inner, rfl, rfl⟩
    rfl

theorem replacement?_eq_none_iff {overlay : Option Overlay} {key : Text} :
    Overlay.replacement? overlay key = .ok none ↔ overlay.bind (·.get? key) = none := by
  unfold Overlay.replacement?
  split
  · rename_i absent
    simp only [absent]
  · rename_i entry found
    simp [found, map_eq_ok_iff]

theorem replacement?_eq_some_iff {overlay : Option Overlay} {key name : Text} {definition : Json} :
    Overlay.replacement? overlay key = .ok (some (name, definition)) ↔
      ∃ inner, overlay.bind (·.get? key) = some (.object [(name, .object inner)]) ∧
        definition = .object inner := by
  unfold Overlay.replacement?
  split
  · rename_i absent
    simp [absent]
  · rename_i entry found
    simp [found, map_eq_ok_iff, entryOf_eq_ok_iff]

/-- A column is read as the definition that the overlay puts in its place. -/
theorem columnOf_outcome_eq_ok_iff {overlay : Option Overlay} {key : Text} {v : Json}
    {column : Text × FieldType} :
    (columnOf overlay key v).outcome = .ok column ↔
      ∃ v', Replaces overlay key v column.1 v' ∧ Describes v' column.2 := by
  rw [columnOf_outcome]
  constructor
  · intro read
    split at read
    · cases read
    · rename_i kept
      obtain ⟨t, described, rfl⟩ := map_eq_ok_iff.1 read
      exact ⟨v, .kept (replacement?_eq_none_iff.1 kept),
        typeOf_eq_ok_iff.1 (inside_eq_ok_iff.1 described)⟩
    · rename_i name replacement replaced
      obtain ⟨t, described, rfl⟩ := map_eq_ok_iff.1 read
      obtain ⟨inner, found, rfl⟩ := replacement?_eq_some_iff.1 replaced
      exact ⟨.object inner, .replaced found, typeOf_eq_ok_iff.1 (inside_eq_ok_iff.1 described)⟩
  · rintro ⟨v', replaces, describes⟩
    obtain ⟨name, t⟩ := column
    have described : ∀ step : Step, step.inside (typeOf v') = .ok t :=
      fun step => inside_eq_ok_iff.2 (typeOf_eq_ok_iff.2 describes)
    cases replaces with
    | kept absent =>
      simp only [replacement?_eq_none_iff.2 absent]
      exact map_eq_ok_iff.2 ⟨t, described _, rfl⟩
    | replaced found =>
      simp only [replacement?_eq_some_iff.2 ⟨_, found, rfl⟩]
      exact map_eq_ok_iff.2 ⟨t, described _, rfl⟩

theorem DescribesColumns.ne_nil {overlay : Option Overlay} {members : Json.Members}
    {fields : Fields} (describes : DescribesColumns overlay members fields) : members ≠ [] := by
  cases describes <;> exact List.cons_ne_nil _ _

theorem columnsOf_outcome_eq_ok_iff {overlay : Option Overlay} {members : Json.Members}
    {fields : Fields} :
    (columnsOf overlay members).outcome = .ok fields ↔ DescribesColumns overlay members fields := by
  induction members generalizing fields with
  | nil =>
    constructor
    · exact nofun
    · intro describes
      exact absurd rfl describes.ne_nil
  | cons member rest ih =>
    obtain ⟨key, v⟩ := member
    cases rest with
    | nil =>
      simp only [columnsOf_outcome_singleton, map_eq_ok_iff, columnOf_outcome_eq_ok_iff]
      constructor
      · rintro ⟨column, ⟨v', replaces, describes⟩, rfl⟩
        exact .last replaces describes
      · intro describes
        cases describes with
        | @last _ name _ v' t replaces describes =>
          exact ⟨(name, t), ⟨v', replaces, describes⟩, rfl⟩
        | more _ _ others => exact absurd rfl others.ne_nil
    | cons next rest =>
      simp only [columnsOf_outcome_cons, bind_eq_ok_iff, map_eq_ok_iff, columnOf_outcome_eq_ok_iff,
        ih]
      constructor
      · rintro ⟨column, ⟨v', replaces, describes⟩, others, describesOthers, rfl⟩
        exact .more replaces describes describesOthers
      · intro describes
        cases describes with
        | @more _ name _ v' t _ others replaces describes describesOthers =>
          exact ⟨(name, t), ⟨v', replaces, describes⟩, others, describesOthers, rfl⟩

theorem groupingOf_eq_ok_iff {overlay : Option Overlay} {members : Json.Members} {r : Record} :
    groupingOf overlay members = .ok r ↔
      ∃ inner fields, IsGroupingOf members inner ∧ DescribesColumns overlay inner fields ∧
        r = ⟨.implicit, fields⟩ := by
  simp only [groupingOf, bind_eq_ok_iff, mapError_eq_ok_iff, groupingMembers_eq_ok_iff,
    columnsOf_outcome_eq_ok_iff, Except.ok.injEq, IsGroupingOf]
  constructor
  · rintro ⟨inner, inside, fields, describes, rfl⟩
    exact ⟨inner, fields, inside, describes, rfl⟩
  · rintro ⟨inner, fields, inside, describes, rfl⟩
    exact ⟨inner, inside, fields, describes, rfl⟩

theorem explicitOf_eq_ok_iff {members : Json.Members} {r : Record}
    (typed : members.get? "type" = some (.text "object")) :
    explicitOf members = .ok r ↔
      ∃ fields, Describes (.object members) (.record .explicit fields) ∧
        r = ⟨.explicit, fields⟩ := by
  simp only [explicitOf, bind_eq_ok_iff, mapError_eq_ok_iff, propertiesOf_eq_ok_iff,
    fieldsOf_eq_ok_iff, Except.ok.injEq]
  constructor
  · rintro ⟨properties, ⟨found, -⟩, fields, describes, rfl⟩
    exact ⟨fields, .object typed found describes, rfl⟩
  · rintro ⟨fields, describes, rfl⟩
    cases describes with
    | object _ found describes => exact ⟨_, ⟨found, describes.ne_nil⟩, fields, describes, rfl⟩

/-- A definition of an explicit object has that keyword. -/
theorem Describes.typed_of_explicit {v : Json} {fields : Fields}
    (describes : Describes v (.record .explicit fields)) :
    ∃ members : Json.Members, v = .object members ∧
      members.get? "type" = some (.text "object") := by
  cases describes with
  | object typed _ _ => exact ⟨_, rfl, typed⟩

/-- The grammar derives every accepted document with its record. -/
theorem describesDocument_of_read {overlay : Option Overlay} {document : Json} {r : Record}
    (read : (recordOf overlay document).outcome = .ok r) :
    DescribesDocument overlay document r := by
  cases document with
  | object members =>
    cases word : typeWord? members with
    | none =>
      have untyped := typeWord?_eq_none_iff.1 word
      rw [recordOf_outcome_of_untyped untyped, mapError_eq_ok_iff, groupingOf_eq_ok_iff] at read
      obtain ⟨inner, fields, inside, describes, rfl⟩ := read
      exact .grouping untyped inside describes
    | some value =>
      cases keyword : keywordOf value with
      | error fault =>
        simp only [recordOf, word, keyword] at read
        cases read
      | ok keyword' =>
        have typed := (typeWord?_eq_some_iff.1 word).1
        rw [keywordOf_eq_ok_iff.1 keyword] at typed
        cases keyword' with
        | object =>
          rw [recordOf_outcome_of_object typed, mapError_eq_ok_iff,
            explicitOf_eq_ok_iff typed] at read
          obtain ⟨fields, describes, rfl⟩ := read
          exact .object describes
        | primitive | decimal | array | map | null =>
          simp only [recordOf, word, keyword] at read
          cases read
  | null | bool | int | real | text | array => cases read

/-- A document that the grammar derives is accepted with its record. -/
theorem read_of_describesDocument {overlay : Option Overlay} {document : Json} {r : Record}
    (describes : DescribesDocument overlay document r) :
    (recordOf overlay document).outcome = .ok r := by
  cases describes with
  | object describes =>
    obtain ⟨members, rfl, typed⟩ := describes.typed_of_explicit
    rw [recordOf_outcome_of_object typed, mapError_eq_ok_iff, explicitOf_eq_ok_iff typed]
    exact ⟨_, describes, rfl⟩
  | grouping untyped inside describes =>
    rw [recordOf_outcome_of_untyped untyped, mapError_eq_ok_iff, groupingOf_eq_ok_iff]
    exact ⟨_, _, inside, describes, rfl⟩

/-- A document is accepted with a record exactly if the grammar derives it with this record,
whatever the overlay. So the accepted documents are the well-formed ones, and the record of a
document is the one that the grammar assigns to it. -/
theorem recordOf_outcome_eq_ok_iff (overlay : Option Overlay) (document : Json) (r : Record) :
    (recordOf overlay document).outcome = .ok r ↔ DescribesDocument overlay document r :=
  ⟨describesDocument_of_read, read_of_describesDocument⟩

/-! ## Documents without an overlay -/

/-- Without an overlay a column is the field that its definition describes. -/
theorem describesColumns_none_iff {members : Json.Members} {fields : Fields} :
    DescribesColumns none members fields ↔ DescribesFields members fields := by
  constructor
  · intro describes
    induction describes with
    | last replaces describes =>
      cases replaces with
      | kept => exact .last describes
      | replaced entry => cases entry
    | more replaces describes _ ih =>
      cases replaces with
      | kept => exact .more describes ih
      | replaced entry => cases entry
  · intro describes
    induction members generalizing fields with
    | nil => exact absurd rfl describes.ne_nil
    | cons member rest ih =>
      cases describes with
      | last describes => exact .last (.kept rfl) describes
      | more describes others => exact .more (.kept rfl) describes (ih others)

/-- Without an overlay a document is a definition of its record. -/
theorem describesDocument_none_iff {document : Json} {r : Record} :
    DescribesDocument none document r ↔ Describes document r.toType := by
  constructor
  · intro describes
    cases describes with
    | object describes => exact describes
    | grouping untyped inside describes =>
      exact .grouping untyped inside (describesColumns_none_iff.1 describes)
  · intro describes
    obtain ⟨form, fields⟩ := r
    cases describes with
    | object typed found describes => exact .object (.object typed found describes)
    | grouping untyped inside describes =>
      exact .grouping untyped inside (describesColumns_none_iff.2 describes)

end TableDdl.Schema
