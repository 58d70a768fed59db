import TableDdl.Log.Event
import TableDdl.Number.Numeral
import TableDdl.Schema.FieldType
import TableDdl.Schema.Overlay

/-!
# From JSON values to field types

`typeOf` reads a field definition and `recordOf` a whole document. A definition is an object. Its
member `type` gives the keyword, unless that member is an object itself: then it is a field of that
name, and the definition is a grouping of fields, given by the member `properties` or by all
members. The first fault that is met ends the reading: a definition is checked before its parts, and
the parts follow in order.
-/

namespace TableDdl.Schema

/-! ## The parts of a definition -/

/-- The value that stands for the type keyword of a definition. -/
def typeWord? (members : Json.Members) : Option Json :=
  match members.get? "type" with
  | some (.object _) => none
  | value => value

/-- The keyword that a value spells. -/
def keywordOf : Json → Except Fault Keyword
  | .text word =>
    match Keyword.ofText? word with
    | some keyword => .ok keyword
    | none => .error (.unknownWord word)
  | value => .error (.unknownValue value)

/-- The members of a grouping. -/
def groupingMembers (members : Json.Members) : Except Fault Json.Members :=
  match members.get? "properties" with
  | some (.object inner) => .ok inner
  | some _ => .error .groupingProperties
  | none => .ok members

/-- The properties of a composite type, of which there is at least one. -/
def propertiesOf (composite : Composite) (members : Json.Members) : Except Fault Json.Members :=
  match members.get? "properties" with
  | some (.object (first :: rest)) => .ok (first :: rest)
  | _ => .error (.properties composite)

/-- The integer that a parameter is equal to: an integer, a number without a fraction, or a text
that stands for one. -/
def integerOf (parameter : Parameter) (value : Json) : Except Fault Int :=
  let number? : Option Binary64 :=
    match value with
    | .real x => some x
    | .text t => Binary64.ofText? t
    | _ => none
  match value, number? with
  | .int n, _ => .ok n
  | _, none => .error (.parameterNotNumber parameter value)
  | _, some x =>
    match x.toInt? with
    | some n => .ok n
    | none => .error (.parameterNotInteger parameter value)

/-- The decimal type with given members. Both parameters have to be there before either is read. -/
def decimalOf (members : Json.Members) : Except Fault FieldType := do
  let properties ← propertiesOf .decimal members
  match properties.get? "precision" with
  | none => .error (.missingParameter .precision)
  | some precision =>
    match properties.get? "scale" with
    | none => .error (.missingParameter .scale)
    | some scale =>
      let p ← integerOf .precision precision
      let s ← integerOf .scale scale
      .ok (.decimal p s)

theorem sizeOf_groupingMembers_le {members inner : Json.Members}
    (h : groupingMembers members = .ok inner) : sizeOf inner ≤ sizeOf members := by
  unfold groupingMembers at h
  split at h
  · rename_i found
    have := Json.Members.sizeOf_get?_lt found
    cases h
    simp at this
    omega
  · cases h
  · cases h
    exact Nat.le_refl _

theorem sizeOf_propertiesOf_lt {composite : Composite} {members inner : Json.Members}
    (h : propertiesOf composite members = .ok inner) : sizeOf inner < sizeOf members := by
  unfold propertiesOf at h
  split at h
  · rename_i found
    have := Json.Members.sizeOf_get?_lt found
    cases h
    simp at this ⊢
    omega
  · cases h

/-! ## Definitions -/

mutual

/-- The type that a field definition describes. -/
def typeOf (definition : Json) : Except PlacedFault FieldType :=
  match definition with
  | .object members =>
    match typeWord? members with
    | none =>
      match _h : groupingMembers members with
      | .error fault => fault.here
      | .ok inner => .record .implicit <$> fieldsOf inner
    | some word =>
      match keywordOf word with
      | .error fault => fault.here
      | .ok (.primitive kind) => .ok (.primitive kind)
      | .ok .decimal => (decimalOf members).mapError (⟨[], ·⟩)
      | .ok .array =>
        match _h : Json.Members.get? "items" members with
        | none => Fault.missingItems.here
        | some item => .array <$> Step.item.inside (typeOf item)
      | .ok .map =>
        match _h : propertiesOf .map members with
        | .error fault => fault.here
        | .ok properties =>
          match _hkey : properties.get? "key" with
          | none => (Fault.missingMapPart .key).here
          | some key =>
            match _hvalue : properties.get? "value" with
            | none => (Fault.missingMapPart .value).here
            | some value => do
              let k ← (Step.part .key).inside (typeOf key)
              let v ← (Step.part .value).inside (typeOf value)
              .ok (.map k v)
      | .ok .object =>
        match _h : propertiesOf .object members with
        | .error fault => fault.here
        | .ok properties => .record .explicit <$> fieldsOf properties
      | .ok .null => Fault.nullType.here
  | value => (Fault.notObject value).here
termination_by sizeOf definition
decreasing_by
  · have := sizeOf_groupingMembers_le _h
    simp
    omega
  · have := Json.Members.sizeOf_get?_lt _h
    simp
    omega
  · have := sizeOf_propertiesOf_lt _h
    have := Json.Members.sizeOf_get?_lt _hkey
    simp
    omega
  · have := sizeOf_propertiesOf_lt _h
    have := Json.Members.sizeOf_get?_lt _hvalue
    simp
    omega
  · have := sizeOf_propertiesOf_lt _h
    simp
    omega

/-- The fields that the members of a record describe, in order. -/
def fieldsOf (members : Json.Members) : Except PlacedFault Fields :=
  match members with
  | [] => Fault.groupingEmpty.here
  | [(name, definition)] => .last name <$> (Step.field name).inside (typeOf definition)
  | (name, definition) :: next :: rest => do
    let type ← (Step.field name).inside (typeOf definition)
    .more name type <$> fieldsOf (next :: rest)
termination_by sizeOf members

end

/-! ## Documents -/

/-- A column of a document: its name and its type, after a replacement by the overlay. The entry of
a column is looked up just before its definition is read, and a replacement is reported. -/
def columnOf (overlay : Option Overlay) (key : Text) (definition : Json) :
    Traced PlacedFault (Text × FieldType) :=
  match Overlay.replacement? overlay key with
  | .error fault => .fail ⟨[.field key], fault⟩
  | .ok none =>
    .ofExcept ((key, ·) <$> (Step.field key).inside (typeOf definition))
  | .ok (some (name, replacement)) => do
    .emit (.overlayApplied key name)
    .ofExcept ((name, ·) <$> (Step.field name).inside (typeOf replacement))

/-- The columns that the members of a document describe, in order. -/
def columnsOf (overlay : Option Overlay) : Json.Members → Traced PlacedFault Fields
  | [] => .fail ⟨[], .groupingEmpty⟩
  | [(key, definition)] => do
    let (name, type) ← columnOf overlay key definition
    pure (.last name type)
  | (key, definition) :: next :: rest => do
    let (name, type) ← columnOf overlay key definition
    let others ← columnsOf overlay (next :: rest)
    pure (.more name type others)

/-- Reports that an overlay does not apply, if there is anything in it. -/
def reportSkipped : Option Overlay → Traced PlacedFault Unit
  | some (_ :: _) => .emit .overlaySkipped
  | _ => pure ()

/-- The record that a document describes. The overlay applies to the fields of an implicit grouping;
an explicit object is read without it. -/
def recordOf (overlay : Option Overlay) (document : Json) : Traced SchemaError Record :=
  match document with
  | .object members =>
    match typeWord? members with
    | none => Traced.mapError (PlacedFault.toError []) do
      let inner ← Traced.ofExcept ((groupingMembers members).mapError (⟨[], ·⟩))
      let fields ← columnsOf overlay inner
      pure ⟨.implicit, fields⟩
    | some word =>
      match keywordOf word with
      | .error fault => .fail ⟨fault, some []⟩
      | .ok .null => .fail ⟨.nullType, some []⟩
      | .ok .object => Traced.mapError (PlacedFault.toError []) do
        reportSkipped overlay
        let properties ← Traced.ofExcept ((propertiesOf .object members).mapError (⟨[], ·⟩))
        let fields ← Traced.ofExcept (fieldsOf properties)
        pure ⟨.explicit, fields⟩
      | .ok keyword => .fail ⟨.rootKeyword keyword, none⟩
  | value => .fail ⟨.rootNotObject value, none⟩

end TableDdl.Schema
