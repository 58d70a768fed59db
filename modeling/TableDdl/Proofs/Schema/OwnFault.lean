import TableDdl.Proofs.Schema.Grammar

/-!
# The fault of a definition itself

`HasFault` says what can be wrong with a definition, its parts left aside, and when. Its conditions
exclude each other, so that they also say which of several checks comes first: `properties` before
what stands in it, the presence of both parameters of a decimal type before the value of either, the
precision before the scale, and the key of a map type before its value.
-/

namespace TableDdl.Schema

open Outcome

/-- A value that is no integer parameter: no number at all, or a number that is no integer. -/
inductive ParameterFault (parameter : Parameter) : Json → Fault → Prop
  | notNumber {value : Json} :
    (∀ n, value ≠ .int n) → (∀ x, value ≠ .real x) →
    (∀ t, value = .text t → Binary64.ofText? t = none) →
    ParameterFault parameter value (.parameterNotNumber parameter value)
  | real {x : Binary64} :
    (∀ n : Int, x.value? ≠ some (n : ℚ)) →
    ParameterFault parameter (.real x) (.parameterNotInteger parameter (.real x))
  | text {t : Text} {x : Binary64} :
    Binary64.ofText? t = some x → (∀ n : Int, x.value? ≠ some (n : ℚ)) →
    ParameterFault parameter (.text t) (.parameterNotInteger parameter (.text t))

/-- The members of a composite type give it no properties: its member `properties` is missing, no
object, or empty. -/
def LacksProperties (members : Json.Members) : Prop :=
  ∀ properties, members.get? "properties" = some (.object properties) → properties = []

/-- What can be wrong with a decimal type. -/
inductive DecimalFault (members : Json.Members) : Fault → Prop
  | properties : LacksProperties members → DecimalFault members (.properties .decimal)
  | noPrecision {properties : Json.Members} :
    members.get? "properties" = some (.object properties) → properties ≠ [] →
    properties.get? "precision" = none →
    DecimalFault members (.missingParameter .precision)
  | noScale {properties : Json.Members} {precision : Json} :
    members.get? "properties" = some (.object properties) →
    properties.get? "precision" = some precision → properties.get? "scale" = none →
    DecimalFault members (.missingParameter .scale)
  | precision {properties : Json.Members} {precision scale : Json} {fault : Fault} :
    members.get? "properties" = some (.object properties) →
    properties.get? "precision" = some precision → properties.get? "scale" = some scale →
    ParameterFault .precision precision fault →
    DecimalFault members fault
  | scale {properties : Json.Members} {precision scale : Json} {p : Int} {fault : Fault} :
    members.get? "properties" = some (.object properties) →
    properties.get? "precision" = some precision → properties.get? "scale" = some scale →
    IsParameter precision p → ParameterFault .scale scale fault →
    DecimalFault members fault

/-- What can be wrong with a map type, its parts left aside. -/
inductive MapFault (members : Json.Members) : Fault → Prop
  | properties : LacksProperties members → MapFault members (.properties .map)
  | noKey {properties : Json.Members} :
    members.get? "properties" = some (.object properties) → properties ≠ [] →
    properties.get? "key" = none → MapFault members (.missingMapPart .key)
  | noValue {properties : Json.Members} {key : Json} :
    members.get? "properties" = some (.object properties) →
    properties.get? "key" = some key → properties.get? "value" = none →
    MapFault members (.missingMapPart .value)

/-- What can be wrong with a definition that has a type keyword, its parts left aside. -/
inductive KeywordFault (members : Json.Members) : Keyword → Fault → Prop
  | decimal {fault : Fault} : DecimalFault members fault → KeywordFault members .decimal fault
  | array : members.get? "items" = none → KeywordFault members .array .missingItems
  | map {fault : Fault} : MapFault members fault → KeywordFault members .map fault
  | object : LacksProperties members → KeywordFault members .object (.properties .object)
  | null : KeywordFault members .null .nullType

/-- `HasFault v fault`: the value `v` is no definition because of `fault`, its parts left aside. -/
inductive HasFault : Json → Fault → Prop
  | notObject {v : Json} : (∀ members, v ≠ .object members) → HasFault v (.notObject v)
  | unknownValue {members : Json.Members} {value : Json} :
    members.get? "type" = some value → (∀ inner, value ≠ .object inner) →
    (∀ word, value ≠ .text word) →
    HasFault (.object members) (.unknownValue value)
  | unknownWord {members : Json.Members} {word : Text} :
    members.get? "type" = some (.text word) → (∀ keyword : Keyword, word ≠ keyword.word) →
    HasFault (.object members) (.unknownWord word)
  | keyword {members : Json.Members} {keyword : Keyword} {fault : Fault} :
    members.get? "type" = some (.text keyword.word) → KeywordFault members keyword fault →
    HasFault (.object members) fault
  | groupingProperties {members : Json.Members} {value : Json} :
    IsUntyped members → members.get? "properties" = some value →
    (∀ inner, value ≠ .object inner) →
    HasFault (.object members) .groupingProperties
  | groupingEmpty {members : Json.Members} :
    IsUntyped members → IsGroupingOf members [] →
    HasFault (.object members) .groupingEmpty

/-! ## The checks find these faults -/

theorem ofText?_eq_none_iff {word : Text} :
    Keyword.ofText? word = none ↔ ∀ keyword : Keyword, word ≠ keyword.word := by
  constructor
  · rintro unknown keyword rfl
    rw [Keyword.ofText?_word] at unknown
    cases unknown
  · intro unknown
    cases found : Keyword.ofText? word with
    | none => rfl
    | some keyword => exact absurd (Keyword.word_of_ofText? found).symm (unknown keyword)

theorem keywordOf_eq_error_iff {value : Json} {fault : Fault} :
    keywordOf value = .error fault ↔
      (∃ word, value = .text word ∧ (∀ keyword : Keyword, word ≠ keyword.word) ∧
        fault = .unknownWord word) ∨
      (∀ word, value ≠ .text word) ∧ fault = .unknownValue value := by
  cases value with
  | text word =>
    cases found : Keyword.ofText? word with
    | none => simp [keywordOf, found, ofText?_eq_none_iff.1 found, eq_comm]
    | some keyword =>
      obtain rfl := Keyword.word_of_ofText? found
      simp only [keywordOf, found, Json.text.injEq]
      constructor
      · intro eq
        cases eq
      · rintro (⟨_, rfl, unknown, -⟩ | ⟨noWord, -⟩)
        · exact absurd rfl (unknown keyword)
        · exact absurd rfl (noWord _)
  | null | bool | int | real | array | object => simp [keywordOf, eq_comm]

theorem propertiesOf_eq_error_iff {composite : Composite} {members : Json.Members} {fault : Fault} :
    propertiesOf composite members = .error fault ↔
      LacksProperties members ∧ fault = .properties composite := by
  cases read : propertiesOf composite members with
  | ok inner =>
    obtain ⟨found, nonempty⟩ := propertiesOf_eq_ok_iff.1 read
    simp only [reduceCtorEq, false_iff, not_and]
    intro lacks
    exact absurd (lacks inner found) nonempty
  | error fault' =>
    have lacks : LacksProperties members := by
      intro properties found
      by_contra nonempty
      rw [propertiesOf_eq_ok_iff.2 ⟨found, nonempty⟩] at read
      cases read
    have same : fault' = .properties composite := by
      unfold propertiesOf at read
      split at read
      · cases read
      · exact (Except.error.inj read).symm
    simp [lacks, same, eq_comm]

theorem groupingMembers_eq_error_iff {members : Json.Members} {fault : Fault} :
    groupingMembers members = .error fault ↔
      (∃ value, members.get? "properties" = some value ∧ ∀ inner, value ≠ .object inner) ∧
        fault = .groupingProperties := by
  unfold groupingMembers
  split
  · rename_i inner found
    simp [found]
  · rename_i value noObject found
    have noObject : ∀ inner, value ≠ .object inner := noObject
    simp [found, noObject, eq_comm]
  · rename_i absent
    simp [absent]

theorem integerOf_eq_error_iff {parameter : Parameter} {value : Json} {fault : Fault} :
    integerOf parameter value = .error fault ↔ ParameterFault parameter value fault := by
  constructor
  · intro read
    cases value with
    | int n => cases read
    | real x =>
      simp only [integerOf] at read
      split at read
      · cases read
      · rename_i noInteger
        cases read
        exact .real (Binary64.toInt?_eq_none_iff.1 noInteger)
    | text t =>
      cases found : Binary64.ofText? t with
      | none =>
        simp only [integerOf, found] at read
        cases read
        refine .notNumber ?_ ?_ ?_
        · intro _ eq
          cases eq
        · intro _ eq
          cases eq
        · intro _ eq
          cases eq
          exact found
      | some x =>
        simp only [integerOf, found] at read
        split at read
        · cases read
        · rename_i noInteger
          cases read
          exact .text found (Binary64.toInt?_eq_none_iff.1 noInteger)
    | null | bool | array | object =>
      cases read
      refine .notNumber ?_ ?_ ?_
      all_goals
        intro _ eq
        cases eq
  · intro isFault
    cases isFault with
    | notNumber noInt noReal noNumeral =>
      cases value with
      | int n => exact absurd rfl (noInt n)
      | real x => exact absurd rfl (noReal x)
      | text t => simp only [integerOf, noNumeral t rfl]
      | null | bool | array | object => rfl
    | real noInteger => simp only [integerOf, Binary64.toInt?_eq_none_iff.2 noInteger]
    | text found noInteger => simp only [integerOf, found, Binary64.toInt?_eq_none_iff.2 noInteger]

theorem decimalOf_eq_error_iff {members : Json.Members} {fault : Fault} :
    decimalOf members = .error fault ↔ DecimalFault members fault := by
  constructor
  · intro read
    rcases bind_eq_error_iff.1 read with noProperties | ⟨properties, inside, read⟩
    · obtain ⟨lacks, rfl⟩ := propertiesOf_eq_error_iff.1 noProperties
      exact .properties lacks
    obtain ⟨inside, nonempty⟩ := propertiesOf_eq_ok_iff.1 inside
    split at read
    · rename_i absent
      cases read
      exact .noPrecision inside nonempty absent
    rename_i precision precisionFound
    split at read
    · rename_i absent
      cases read
      exact .noScale inside precisionFound absent
    rename_i scale scaleFound
    rcases bind_eq_error_iff.1 read with isFault | ⟨p, precisionRead, read⟩
    · exact .precision inside precisionFound scaleFound (integerOf_eq_error_iff.1 isFault)
    rcases bind_eq_error_iff.1 read with isFault | ⟨s, -, read⟩
    · exact .scale inside precisionFound scaleFound (integerOf_eq_ok_iff.1 precisionRead)
        (integerOf_eq_error_iff.1 isFault)
    · cases read
  · intro isFault
    refine bind_eq_error_iff.2 ?_
    cases isFault with
    | properties lacks => exact Or.inl (propertiesOf_eq_error_iff.2 ⟨lacks, rfl⟩)
    | noPrecision inside nonempty absent =>
      refine Or.inr ⟨_, propertiesOf_eq_ok_iff.2 ⟨inside, nonempty⟩, ?_⟩
      simp only [absent]
    | noScale inside found absent =>
      refine Or.inr ⟨_, propertiesOf_eq_ok_iff.2 ⟨inside, ne_nil_of_get? found⟩, ?_⟩
      simp only [found, absent]
    | precision inside found scaleFound isFault =>
      refine Or.inr ⟨_, propertiesOf_eq_ok_iff.2 ⟨inside, ne_nil_of_get? found⟩, ?_⟩
      simp only [found, scaleFound]
      exact bind_eq_error_iff.2 (Or.inl (integerOf_eq_error_iff.2 isFault))
    | scale inside found scaleFound isParameter isFault =>
      refine Or.inr ⟨_, propertiesOf_eq_ok_iff.2 ⟨inside, ne_nil_of_get? found⟩, ?_⟩
      simp only [found, scaleFound]
      exact bind_eq_error_iff.2 (Or.inr ⟨_, integerOf_eq_ok_iff.2 isParameter,
        bind_eq_error_iff.2 (Or.inl (integerOf_eq_error_iff.2 isFault))⟩)

theorem levelOfMap_eq_error_iff {members : Json.Members} {fault : Fault} :
    levelOfMap members = .error fault ↔ MapFault members fault := by
  constructor
  · intro read
    rcases bind_eq_error_iff.1 read with noProperties | ⟨properties, inside, read⟩
    · obtain ⟨lacks, rfl⟩ := propertiesOf_eq_error_iff.1 noProperties
      exact .properties lacks
    obtain ⟨inside, nonempty⟩ := propertiesOf_eq_ok_iff.1 inside
    split at read
    · rename_i absent
      cases read
      exact .noKey inside nonempty absent
    rename_i key found
    split at read
    · rename_i absent
      cases read
      exact .noValue inside found absent
    · cases read
  · intro isFault
    refine bind_eq_error_iff.2 ?_
    cases isFault with
    | properties lacks => exact Or.inl (propertiesOf_eq_error_iff.2 ⟨lacks, rfl⟩)
    | noKey inside nonempty absent =>
      refine Or.inr ⟨_, propertiesOf_eq_ok_iff.2 ⟨inside, nonempty⟩, ?_⟩
      simp only [absent]
    | noValue inside found absent =>
      refine Or.inr ⟨_, propertiesOf_eq_ok_iff.2 ⟨inside, ne_nil_of_get? found⟩, ?_⟩
      simp only [found, absent]

theorem levelOfKeyword_eq_error_iff {members : Json.Members} {keyword : Keyword} {fault : Fault} :
    levelOfKeyword members keyword = .error fault ↔ KeywordFault members keyword fault := by
  cases keyword with
  | primitive kind =>
    constructor <;>
    · intro isFault
      cases isFault
  | decimal =>
    simp only [levelOfKeyword, map_eq_error_iff, decimalOf_eq_error_iff]
    constructor
    · exact .decimal
    · intro isFault
      cases isFault with
      | decimal isFault => exact isFault
  | array =>
    simp only [levelOfKeyword]
    split
    · rename_i absent
      constructor
      · rintro ⟨⟩
        exact .array absent
      · rintro ⟨⟩
        rfl
    · rename_i item found
      constructor
      · intro eq
        cases eq
      · rintro (_ | absent)
        rw [found] at absent
        cases absent
  | map =>
    simp only [levelOfKeyword, levelOfMap_eq_error_iff]
    constructor
    · exact .map
    · intro isFault
      cases isFault with
      | map isFault => exact isFault
  | object =>
    simp only [levelOfKeyword, map_eq_error_iff, propertiesOf_eq_error_iff]
    constructor
    · rintro ⟨lacks, rfl⟩
      exact .object lacks
    · rintro (_ | _ | _ | lacks)
      exact ⟨lacks, rfl⟩
  | null =>
    constructor
    · rintro ⟨⟩
      exact .null
    · rintro ⟨⟩
      rfl

theorem levelOfGrouping_eq_error_iff {members : Json.Members} {fault : Fault} :
    levelOfGrouping members = .error fault ↔
      groupingMembers members = .error fault ∨
        IsGroupingOf members [] ∧ fault = .groupingEmpty := by
  simp only [levelOfGrouping, bind_eq_error_iff, groupingMembers_eq_ok_iff, IsGroupingOf]
  refine or_congr_right ⟨?_, ?_⟩
  · rintro ⟨inner, inside, read⟩
    cases inner with
    | nil =>
      cases read
      exact ⟨inside, rfl⟩
    | cons first rest => cases read
  · rintro ⟨inside, rfl⟩
    exact ⟨[], inside, rfl⟩

/-- The first check that a definition fails is the one whose fault it has. -/
theorem levelOf_eq_error_iff {v : Json} {fault : Fault} :
    levelOf v = .error fault ↔ HasFault v fault := by
  cases v with
  | object members =>
    cases word : typeWord? members with
    | none =>
      have untyped := typeWord?_eq_none_iff.1 word
      simp only [levelOf, word, levelOfGrouping_eq_error_iff, groupingMembers_eq_error_iff]
      constructor
      · rintro (⟨⟨value, found, noObject⟩, rfl⟩ | ⟨empty, rfl⟩)
        · exact .groupingProperties untyped found noObject
        · exact .groupingEmpty untyped empty
      · intro isFault
        cases isFault with
        | notObject noObject => exact absurd rfl (noObject members)
        | unknownValue typed noObject _ =>
          obtain ⟨inner, rfl⟩ := untyped.eq_object typed
          exact absurd rfl (noObject inner)
        | unknownWord typed _ =>
          obtain ⟨inner, eq⟩ := untyped.eq_object typed
          cases eq
        | keyword typed _ =>
          obtain ⟨inner, eq⟩ := untyped.eq_object typed
          cases eq
        | groupingProperties _ found noObject => exact Or.inl ⟨⟨_, found, noObject⟩, rfl⟩
        | groupingEmpty _ empty => exact Or.inr ⟨empty, rfl⟩
    | some value =>
      obtain ⟨typed, noObject⟩ := typeWord?_eq_some_iff.1 word
      simp only [levelOf, word, bind_eq_error_iff, keywordOf_eq_error_iff, keywordOf_eq_ok_iff,
        levelOfKeyword_eq_error_iff]
      constructor
      · rintro ((⟨spelled, rfl, unknown, rfl⟩ | ⟨noWord, rfl⟩) | ⟨keyword, rfl, isFault⟩)
        · exact .unknownWord typed unknown
        · exact .unknownValue typed noObject noWord
        · exact .keyword typed isFault
      · intro isFault
        cases isFault with
        | notObject noObject => exact absurd rfl (noObject members)
        | unknownValue typed' _ noWord =>
          obtain rfl := Option.some.inj (typed.symm.trans typed')
          exact Or.inl (Or.inr ⟨noWord, rfl⟩)
        | unknownWord typed' unknown =>
          obtain rfl := Option.some.inj (typed.symm.trans typed')
          exact Or.inl (Or.inl ⟨_, rfl, unknown, rfl⟩)
        | keyword typed' isFault =>
          exact Or.inr ⟨_, Option.some.inj (typed.symm.trans typed'), isFault⟩
        | groupingProperties untyped _ _ =>
          obtain ⟨inner, rfl⟩ := untyped.eq_object typed
          exact absurd rfl (noObject inner)
        | groupingEmpty untyped _ =>
          obtain ⟨inner, rfl⟩ := untyped.eq_object typed
          exact absurd rfl (noObject inner)
  | null | bool | int | real | text | array =>
    simp only [levelOf]
    constructor
    · rintro ⟨⟩
      refine .notObject ?_
      intro _ eq
      cases eq
    · rintro ⟨⟩
      rfl

end TableDdl.Schema
