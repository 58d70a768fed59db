import TableDdl.Proofs.Outcome
import TableDdl.Schema.OfJson

/-!
# One level of a definition

A definition is checked before its parts, and its parts follow in order. `partsOf` lists the parts
of a definition whether or not it passes its checks; `levelOf` makes the checks and hands out the
parts unread. The reading of definitions is then described by a single equation, `typeOf_eq`, and
statements about all definitions follow by `induction_on_parts`, in which the parts of a definition
come before it.
-/

namespace TableDdl.Schema

open Outcome

/-! ## The parts of a definition -/

/-- The members of the object under a key. -/
def membersAt (key : Text) (members : Json.Members) : Json.Members :=
  match members.get? key with
  | some (.object inner) => inner
  | _ => []

/-- The members that a definition without a type keyword groups. -/
def groupedMembers (members : Json.Members) : Json.Members :=
  match members.get? "properties" with
  | none => members
  | some _ => membersAt "properties" members

/-- The definitions of fields. -/
def fieldParts (members : Json.Members) : List (Step × Json) :=
  members.map fun (name, definition) => (.field name, definition)

@[simp] theorem fieldParts_cons (name : Text) (definition : Json) (rest : Json.Members) :
    fieldParts ((name, definition) :: rest) = (.field name, definition) :: fieldParts rest := rfl

/-- The definition under a key, if there is one. -/
def partAt (step : Step) (key : Text) (members : Json.Members) : List (Step × Json) :=
  (members.get? key).toList.map (step, ·)

/-- The definitions that a definition with a type keyword is made of. -/
def partsOfKeyword (members : Json.Members) : Keyword → List (Step × Json)
  | .array => partAt .item "items" members
  | .map =>
    let properties := membersAt "properties" members
    partAt (.part .key) "key" properties ++ partAt (.part .value) "value" properties
  | .object => fieldParts (membersAt "properties" members)
  | .primitive _ | .decimal | .null => []

/-- The definitions that a definition is made of, in order, with the steps that lead to them. -/
def partsOf : Json → List (Step × Json)
  | .object members =>
    match Json.Members.get? "type" members with
    | none | some (.object _) => fieldParts (groupedMembers members)
    | some (.text word) =>
      match Keyword.ofText? word with
      | some keyword => partsOfKeyword members keyword
      | none => []
    | some _ => []
  | _ => []

theorem sizeOf_membersAt_le (key : Text) (members : Json.Members) :
    sizeOf (membersAt key members) ≤ sizeOf members := by
  unfold membersAt
  split
  · rename_i inner found
    have := Json.Members.sizeOf_get?_lt found
    simp only [Json.object.sizeOf_spec] at this
    omega
  · rw [List.nil.sizeOf_spec]
    cases members <;> simp +arith

theorem sizeOf_groupedMembers_le (members : Json.Members) :
    sizeOf (groupedMembers members) ≤ sizeOf members := by
  unfold groupedMembers
  split
  · exact Nat.le_refl _
  · exact sizeOf_membersAt_le _ _

theorem sizeOf_lt_of_mem_fieldParts {members : Json.Members} {part : Step × Json}
    (mem : part ∈ fieldParts members) : sizeOf part.2 < sizeOf members := by
  obtain ⟨⟨name, definition⟩, member, rfl⟩ := List.mem_map.1 mem
  have := List.sizeOf_lt_of_mem member
  simp only [Prod.mk.sizeOf_spec] at this ⊢
  omega

theorem sizeOf_lt_of_mem_partAt {step : Step} {key : Text} {members : Json.Members}
    {part : Step × Json} (mem : part ∈ partAt step key members) :
    sizeOf part.2 < sizeOf members := by
  obtain ⟨definition, found, rfl⟩ := List.mem_map.1 mem
  exact Json.Members.sizeOf_get?_lt (Option.mem_toList.1 found)

theorem sizeOf_lt_of_mem_partsOfKeyword {members : Json.Members} {keyword : Keyword}
    {part : Step × Json} (mem : part ∈ partsOfKeyword members keyword) :
    sizeOf part.2 < sizeOf members := by
  have inside := sizeOf_membersAt_le "properties" members
  cases keyword with
  | array => exact sizeOf_lt_of_mem_partAt mem
  | map =>
    rcases List.mem_append.1 mem with mem | mem
    · exact Nat.lt_of_lt_of_le (sizeOf_lt_of_mem_partAt mem) inside
    · exact Nat.lt_of_lt_of_le (sizeOf_lt_of_mem_partAt mem) inside
  | object => exact Nat.lt_of_lt_of_le (sizeOf_lt_of_mem_fieldParts mem) inside
  | primitive | decimal | null => cases mem

theorem sizeOf_lt_of_mem_partsOf {v : Json} {part : Step × Json} (mem : part ∈ partsOf v) :
    sizeOf part.2 < sizeOf v := by
  cases v with
  | object members =>
    rw [Json.object.sizeOf_spec]
    simp only [partsOf] at mem
    split at mem
    · have := sizeOf_lt_of_mem_fieldParts mem
      have := sizeOf_groupedMembers_le members
      omega
    · have := sizeOf_lt_of_mem_fieldParts mem
      have := sizeOf_groupedMembers_le members
      omega
    · split at mem
      · have := sizeOf_lt_of_mem_partsOfKeyword mem
        omega
      · cases mem
    · cases mem
  | null | bool | int | real | text | array => cases mem

/-- What holds of every definition whose parts it holds of, holds of all definitions. -/
theorem induction_on_parts {motive : Json → Prop}
    (step : ∀ v, (∀ part ∈ partsOf v, motive part.2) → motive v) (v : Json) : motive v :=
  step v fun part mem =>
    have := sizeOf_lt_of_mem_partsOf mem
    induction_on_parts step part.2
termination_by sizeOf v

/-! ## The checks of a definition -/

/-- One level of a definition: a type that no definition is part of, or the definitions that a type
is made of. -/
inductive Level where
  | leaf (type : FieldType)
  | array (item : Json)
  | map (key value : Json)
  | record (form : Form) (members : Json.Members)

/-- The definitions of a level with the steps that lead to them, in the order of the reading. -/
def Level.parts : Level → List (Step × Json)
  | .leaf _ => []
  | .array item => [(.item, item)]
  | .map key value => [(.part .key, key), (.part .value, value)]
  | .record _ members => fieldParts members

/-- The level of a definition without a type keyword. -/
def levelOfGrouping (members : Json.Members) : Except Fault Level := do
  match ← groupingMembers members with
  | [] => .error .groupingEmpty
  | first :: rest => .ok (.record .implicit (first :: rest))

/-- The level of a map type. Both parts have to be there. -/
def levelOfMap (members : Json.Members) : Except Fault Level := do
  let properties ← propertiesOf .map members
  match properties.get? "key" with
  | none => .error (.missingMapPart .key)
  | some key =>
    match properties.get? "value" with
    | none => .error (.missingMapPart .value)
    | some value => .ok (.map key value)

/-- The level of a definition with a type keyword. -/
def levelOfKeyword (members : Json.Members) : Keyword → Except Fault Level
  | .primitive kind => .ok (.leaf (.primitive kind))
  | .decimal => .leaf <$> decimalOf members
  | .array =>
    match members.get? "items" with
    | none => .error .missingItems
    | some item => .ok (.array item)
  | .map => levelOfMap members
  | .object => .record .explicit <$> propertiesOf .object members
  | .null => .error .nullType

/-- The first level of a definition, if the definition passes its own checks. -/
def levelOf : Json → Except Fault Level
  | .object members =>
    match typeWord? members with
    | none => levelOfGrouping members
    | some word => keywordOf word >>= levelOfKeyword members
  | value => .error (.notObject value)

/-! ## What the checks of a definition look at -/

theorem ne_nil_of_get? {members : Json.Members} {key : Text} {value : Json}
    (found : members.get? key = some value) : members ≠ [] := by
  rintro rfl
  cases found

/-- The test for a definition without a type keyword: it has no member `type`, or the member is an
object, which makes it a field. -/
def IsUntyped (members : Json.Members) : Prop :=
  members.get? "type" = none ∨ ∃ inner, members.get? "type" = some (.object inner)

theorem IsUntyped.eq_object {members : Json.Members} {value : Json} (untyped : IsUntyped members)
    (found : members.get? "type" = some value) : ∃ inner, value = .object inner := by
  rcases untyped with absent | ⟨inner, object⟩
  · rw [found] at absent
    cases absent
  · exact ⟨inner, Option.some.inj (found.symm.trans object)⟩

theorem typeWord?_eq_none_iff {members : Json.Members} :
    typeWord? members = none ↔ IsUntyped members := by
  unfold typeWord? IsUntyped
  split <;> simp_all

theorem typeWord?_eq_some_iff {members : Json.Members} {word : Json} :
    typeWord? members = some word ↔
      members.get? "type" = some word ∧ ∀ inner, word ≠ .object inner := by
  unfold typeWord?
  split
  · rename_i inner found
    rw [found]
    constructor
    · exact nofun
    · rintro ⟨same, noObject⟩
      cases same
      exact absurd rfl (noObject inner)
  · rename_i noObject
    constructor
    · intro found
      refine ⟨found, fun inner eq => noObject inner ?_⟩
      rw [found, eq]
    · exact And.left

theorem keywordOf_eq_ok_iff {word : Json} {keyword : Keyword} :
    keywordOf word = .ok keyword ↔ word = .text keyword.word := by
  constructor
  · intro found
    unfold keywordOf at found
    split at found
    · split at found
      · rename_i spelled
        cases found
        rw [Keyword.word_of_ofText? spelled]
      · cases found
    · cases found
  · rintro rfl
    simp only [keywordOf, Keyword.ofText?_word]

theorem propertiesOf_eq_ok_iff {composite : Composite} {members inner : Json.Members} :
    propertiesOf composite members = .ok inner ↔
      members.get? "properties" = some (.object inner) ∧ inner ≠ [] := by
  unfold propertiesOf
  split
  · rename_i first rest found
    rw [found]
    constructor
    · intro eq
      cases eq
      exact ⟨rfl, List.cons_ne_nil _ _⟩
    · rintro ⟨eq, -⟩
      cases eq
      rfl
  · rename_i other
    constructor
    · exact nofun
    · rintro ⟨found, nonempty⟩
      obtain ⟨first, rest, rfl⟩ := List.exists_cons_of_ne_nil nonempty
      exact absurd found (other first rest)

theorem groupingMembers_eq_ok_iff {members inner : Json.Members} :
    groupingMembers members = .ok inner ↔
      members.get? "properties" = some (.object inner) ∨
        members.get? "properties" = none ∧ inner = members := by
  unfold groupingMembers
  split
  · rename_i inner' found
    simp [found, eq_comm]
  · rename_i value noObject found
    simp only [found, reduceCtorEq, Option.some.injEq, false_and, or_false, false_iff]
    exact noObject inner
  · rename_i absent
    simp [absent, eq_comm]

theorem levelOfGrouping_eq_ok_iff {members : Json.Members} {level : Level} :
    levelOfGrouping members = .ok level ↔
      ∃ inner, groupingMembers members = .ok inner ∧ inner ≠ [] ∧
        level = .record .implicit inner := by
  simp only [levelOfGrouping, bind_eq_ok_iff]
  refine exists_congr fun inner => and_congr_right fun _ => ?_
  cases inner <;> simp [eq_comm]

theorem levelOfMap_eq_ok_iff {members : Json.Members} {level : Level} :
    levelOfMap members = .ok level ↔
      ∃ properties key value, propertiesOf .map members = .ok properties ∧
        properties.get? "key" = some key ∧ properties.get? "value" = some value ∧
        level = .map key value := by
  simp only [levelOfMap, bind_eq_ok_iff]
  refine exists_congr fun properties => ?_
  constructor
  · rintro ⟨found, eq⟩
    split at eq
    · cases eq
    · rename_i key keyFound
      split at eq
      · cases eq
      · rename_i value valueFound
        cases eq
        exact ⟨key, value, found, keyFound, valueFound, rfl⟩
  · rintro ⟨key, value, found, keyFound, valueFound, rfl⟩
    simp only [found, keyFound, valueFound, and_self]

theorem levelOf_object_eq_ok_iff {members : Json.Members} {level : Level} :
    levelOf (.object members) = .ok level ↔
      IsUntyped members ∧ levelOfGrouping members = .ok level ∨
        ∃ keyword, members.get? "type" = some (.text keyword.word) ∧
          levelOfKeyword members keyword = .ok level := by
  unfold levelOf
  simp only
  split
  · rename_i untyped
    have untyped := typeWord?_eq_none_iff.1 untyped
    simp only [untyped, true_and, iff_self_or]
    rintro ⟨keyword, typed, -⟩
    obtain ⟨inner, eq⟩ := untyped.eq_object typed
    cases eq
  · rename_i word found
    obtain ⟨typed, noObject⟩ := typeWord?_eq_some_iff.1 found
    have : ¬ IsUntyped members := by
      rw [← typeWord?_eq_none_iff, found]
      intro eq
      cases eq
    simp only [this, false_and, false_or, bind_eq_ok_iff, keywordOf_eq_ok_iff, typed,
      Option.some.injEq]

/-- A record has a member. -/
theorem ne_nil_of_levelOf_record {v : Json} {form : Form} {members : Json.Members}
    (found : levelOf v = .ok (.record form members)) : members ≠ [] := by
  cases v with
  | object outer =>
    rcases levelOf_object_eq_ok_iff.1 found with ⟨-, grouping⟩ | ⟨keyword, -, found⟩
    · obtain ⟨inner, -, nonempty, eq⟩ := levelOfGrouping_eq_ok_iff.1 grouping
      cases eq
      exact nonempty
    · cases keyword with
      | object =>
        obtain ⟨inner, inside, eq⟩ := map_eq_ok_iff.1 found
        cases eq
        exact (propertiesOf_eq_ok_iff.1 inside).2
      | map =>
        obtain ⟨_, _, _, _, _, _, eq⟩ := levelOfMap_eq_ok_iff.1 found
        cases eq
      | decimal =>
        obtain ⟨type, -, eq⟩ := map_eq_ok_iff.1 found
        cases eq
      | array =>
        simp only [levelOfKeyword] at found
        split at found <;> cases found
      | primitive | null => cases found
  | null | bool | int | real | text | array => cases found

/-! ## The parts of a level are those of its definition -/

theorem membersAt_of_get? {key : Text} {members inner : Json.Members}
    (found : members.get? key = some (.object inner)) : membersAt key members = inner := by
  simp only [membersAt, found]

theorem groupedMembers_of_ok {members inner : Json.Members}
    (found : groupingMembers members = .ok inner) : groupedMembers members = inner := by
  rcases groupingMembers_eq_ok_iff.1 found with inside | ⟨absent, rfl⟩
  · simp only [groupedMembers, inside, membersAt]
  · simp only [groupedMembers, absent]

theorem partsOf_of_untyped {members : Json.Members} (untyped : IsUntyped members) :
    partsOf (.object members) = fieldParts (groupedMembers members) := by
  rcases untyped with absent | ⟨inner, object⟩
  · simp only [partsOf, absent]
  · simp only [partsOf, object]

theorem partsOf_of_keyword {members : Json.Members} {keyword : Keyword}
    (typed : members.get? "type" = some (.text keyword.word)) :
    partsOf (.object members) = partsOfKeyword members keyword := by
  simp only [partsOf, typed, Keyword.ofText?_word]

theorem partsOfKeyword_of_levelOf {members : Json.Members} {keyword : Keyword} {level : Level}
    (found : levelOfKeyword members keyword = .ok level) :
    partsOfKeyword members keyword = level.parts := by
  cases keyword with
  | primitive kind =>
    cases found
    rfl
  | decimal =>
    obtain ⟨type, -, rfl⟩ := map_eq_ok_iff.1 found
    rfl
  | array =>
    simp only [levelOfKeyword] at found
    split at found
    · cases found
    · rename_i item itemFound
      cases found
      simp [partsOfKeyword, partAt, itemFound, Level.parts]
  | map =>
    obtain ⟨properties, key, value, inside, keyFound, valueFound, rfl⟩ :=
      levelOfMap_eq_ok_iff.1 found
    have inside := membersAt_of_get? (propertiesOf_eq_ok_iff.1 inside).1
    simp [partsOfKeyword, partAt, inside, keyFound, valueFound, Level.parts]
  | object =>
    obtain ⟨inner, inside, rfl⟩ := map_eq_ok_iff.1 found
    simp only [partsOfKeyword, membersAt_of_get? (propertiesOf_eq_ok_iff.1 inside).1, Level.parts]
  | null => cases found

theorem partsOf_of_levelOf {v : Json} {level : Level} (found : levelOf v = .ok level) :
    partsOf v = level.parts := by
  cases v with
  | object members =>
    rcases levelOf_object_eq_ok_iff.1 found with ⟨untyped, grouping⟩ | ⟨keyword, typed, found⟩
    · obtain ⟨inner, inside, -, rfl⟩ := levelOfGrouping_eq_ok_iff.1 grouping
      rw [partsOf_of_untyped untyped, groupedMembers_of_ok inside]
      rfl
    · rw [partsOf_of_keyword typed, partsOfKeyword_of_levelOf found]
  | null | bool | int | real | text | array => cases found

/-! ## The reading of a definition by levels -/

/-- A definition is read by its own checks and then by the reading of its parts in order. -/
theorem typeOf_eq (v : Json) :
    typeOf v =
      match levelOf v with
      | .error fault => fault.here
      | .ok (.leaf type) => .ok type
      | .ok (.array item) => .array <$> Step.item.inside (typeOf item)
      | .ok (.map key value) => do
        let k ← (Step.part .key).inside (typeOf key)
        let v ← (Step.part .value).inside (typeOf value)
        .ok (.map k v)
      | .ok (.record form members) => .record form <$> fieldsOf members := by
  cases v with
  | object members =>
    rw [typeOf, levelOf]
    cases typed : typeWord? members with
    | none =>
      simp only [levelOfGrouping]
      cases groupingMembers members with
      | error fault => rfl
      | ok inner =>
        cases inner with
        | nil =>
          simp only [fieldsOf]
          rfl
        | cons first rest => rfl
    | some word =>
      dsimp only
      cases keywordOf word with
      | error fault => rfl
      | ok keyword =>
        cases keyword with
        | primitive kind => rfl
        | decimal =>
          simp only [bind, Except.bind, levelOfKeyword]
          cases decimalOf members <;> rfl
        | array =>
          simp only [bind, Except.bind, levelOfKeyword]
          cases Json.Members.get? "items" members <;> rfl
        | map =>
          simp only [bind, Except.bind, levelOfKeyword, levelOfMap]
          cases propertiesOf .map members with
          | error fault => rfl
          | ok properties =>
            dsimp only
            cases properties.get? "key" with
            | none => rfl
            | some key =>
              dsimp only
              cases properties.get? "value" <;> rfl
        | object =>
          simp only [bind, Except.bind, levelOfKeyword]
          cases propertiesOf .object members <;> rfl
        | null => rfl
  | null | bool | int | real | text | array => simp only [typeOf, levelOf]

theorem fieldsOf_singleton (name : Text) (definition : Json) :
    fieldsOf [(name, definition)] =
      .last name <$> (Step.field name).inside (typeOf definition) := by
  rw [fieldsOf]

theorem fieldsOf_cons (name : Text) (definition : Json) (next : Text × Json)
    (rest : Json.Members) :
    fieldsOf ((name, definition) :: next :: rest) =
      (do
        let type ← (Step.field name).inside (typeOf definition)
        .more name type <$> fieldsOf (next :: rest)) := by
  rw [fieldsOf]

end TableDdl.Schema
