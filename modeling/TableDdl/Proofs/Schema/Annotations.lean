import TableDdl.Proofs.Schema.Grammar

/-!
# Annotations of schema documents

`prune` leaves of a document what the form of each of its definitions reads: a title, a description
or any other member beside it is an annotation. Annotations change nothing: a document and what is
left of it are accepted with the same record, or are refused with an error of one class and with one
path (`annotations_change_nothing`). The replacements of an overlay may be pruned as well. Only the
wording of an error can change, because a decimal or a map type of which nothing is left has no
properties at all.
-/

namespace TableDdl.Schema

open Outcome

/-! ## What the reading looks at -/

/-- The members with some keys, in the order of these keys. -/
def pick (keys : List Text) (members : Json.Members) : Json.Members :=
  keys.filterMap fun key => (members.get? key).map (key, ·)

/-- Changes the members of an object; any other value stays. -/
def onMembers (change : Json.Members → Json.Members) : Json → Json
  | .object members => .object (change members)
  | v => v

mutual

/-- A definition without its annotations. One with a type keyword keeps the keyword and what this
keyword reads; a grouping keeps its fields. A value that is no object stays, and so does one in the
place of `properties`. -/
def prune (definition : Json) : Json :=
  match definition with
  | .object members =>
    match typeWord? members with
    | none =>
      match _h : Json.Members.get? "properties" members with
      | none => .object (pruneAll members)
      | some properties => .object [("properties", pruneInside properties)]
    | some word =>
      .object (("type", word) ::
        match keywordOf word with
        | .ok .array =>
          match _h : Json.Members.get? "items" members with
          | none => []
          | some item => [("items", prune item)]
        | .ok .map =>
          match _h : Json.Members.get? "properties" members with
          | none => []
          | some properties =>
            [("properties", onMembers (pick ["key", "value"]) (pruneInside properties))]
        | .ok .decimal =>
          match Json.Members.get? "properties" members with
          | none => []
          | some properties => [("properties", onMembers (pick ["precision", "scale"]) properties)]
        | .ok .object =>
          match _h : Json.Members.get? "properties" members with
          | none => []
          | some properties => [("properties", pruneInside properties)]
        | _ => [])
  | v => v
termination_by sizeOf definition
decreasing_by
  · simp
  all_goals
    have := Json.Members.sizeOf_get?_lt _h
    simp
    omega

/-- An object whose members are pruned; any other value stays. -/
def pruneInside (v : Json) : Json :=
  match v with
  | .object members => .object (pruneAll members)
  | v => v
termination_by sizeOf v

/-- The members whose definitions are pruned. -/
def pruneAll (members : Json.Members) : Json.Members :=
  match members with
  | [] => []
  | (name, definition) :: rest => (name, prune definition) :: pruneAll rest
termination_by sizeOf members

end

/-- An entry of an overlay with a pruned definition. An entry that is no replacement stays. -/
def Overlay.pruneEntry : Json → Json
  | .object [(name, .object definition)] => .object [(name, prune (.object definition))]
  | entry => entry

/-- An overlay in which some replacements are pruned. -/
def Overlay.prune (chosen : Text → Bool) (overlay : Overlay) : Overlay :=
  overlay.map fun (key, entry) => (key, if chosen key then pruneEntry entry else entry)

/-! ## What is left of an object -/

section Left

variable {members inner : Json.Members} {keys : List Text} {key : Text}

theorem prune_of_not_object {v : Json} (noObject : ∀ members, v ≠ .object members) :
    prune v = v := by
  rw [prune]
  exact noObject

theorem exists_prune_object (members : Json.Members) :
    ∃ left, prune (.object members) = .object left := by
  rw [prune]
  split
  · split <;> exact ⟨_, rfl⟩
  · exact ⟨_, rfl⟩

theorem pruneInside_eq (v : Json) : pruneInside v = onMembers pruneAll v := by
  cases v <;> simp only [pruneInside, onMembers]

theorem pruneAll_nil : pruneAll [] = [] := by
  rw [pruneAll]

theorem pruneAll_cons (name : Text) (definition : Json) (rest : Json.Members) :
    pruneAll ((name, definition) :: rest) = (name, prune definition) :: pruneAll rest := by
  rw [pruneAll]

theorem get?_pruneAll (key : Text) (members : Json.Members) :
    (pruneAll members).get? key = (members.get? key).map prune := by
  induction members with
  | nil =>
    rw [pruneAll_nil]
    rfl
  | cons member rest ih =>
    rw [pruneAll_cons, Json.Members.get?, Json.Members.get?, ih]
    split <;> rfl

theorem pick_cons (first : Text) (rest : List Text) (members : Json.Members) :
    pick (first :: rest) members =
      ((members.get? first).map (first, ·)).toList ++ pick rest members := by
  rw [pick, List.filterMap_cons]
  cases members.get? first <;> rfl

theorem get?_pick_eq (keys : List Text) (members : Json.Members) :
    (pick keys members).get? key = if key ∈ keys then members.get? key else none := by
  induction keys with
  | nil => rfl
  | cons first rest ih =>
    rw [pick_cons]
    by_cases same : first = key
    · subst same
      cases found : members.get? first <;> simp [Json.Members.get?, ih, found]
    · have other : key ≠ first := fun eq => same eq.symm
      cases members.get? first <;> simp [Json.Members.get?, ih, same, other]

theorem get?_pick (asked : key ∈ keys) : (pick keys members).get? key = members.get? key := by
  rw [get?_pick_eq, if_pos asked]

/-- Pruning all members of an object does not give it another keyword. -/
theorem typeWord?_pruneAll (members : Json.Members) :
    typeWord? (pruneAll members) = typeWord? members := by
  unfold typeWord?
  rw [get?_pruneAll]
  cases found : members.get? "type" with
  | none => rfl
  | some value =>
    cases value with
    | object inner =>
      obtain ⟨left, same⟩ := exists_prune_object inner
      simp only [Option.map_some, same]
    | null | bool | int | real | text | array =>
      rw [Option.map_some, prune_of_not_object (by simp)]

theorem prune_of_untyped (untyped : IsUntyped members) :
    prune (.object members) =
      match members.get? "properties" with
      | none => .object (pruneAll members)
      | some properties => .object [("properties", pruneInside properties)] := by
  rw [prune]
  simp only [typeWord?_eq_none_iff.mpr untyped]
  split <;> simp_all

/-- What is left of a grouping is a grouping of the pruned fields. -/
theorem groupingMembers_prune (untyped : IsUntyped members) :
    ∃ left, prune (.object members) = .object left ∧ IsUntyped left ∧
      groupingMembers left = pruneAll <$> groupingMembers members := by
  rw [prune_of_untyped untyped]
  cases found : members.get? "properties" with
  | none =>
    refine ⟨pruneAll members, rfl, ?_, ?_⟩
    · rw [← typeWord?_eq_none_iff, typeWord?_pruneAll, typeWord?_eq_none_iff]
      exact untyped
    · simp only [groupingMembers, get?_pruneAll, found]
      rfl
  | some properties =>
    refine ⟨[("properties", pruneInside properties)], rfl, Or.inl rfl, ?_⟩
    have left : Json.Members.get? "properties" [("properties", pruneInside properties)] =
        some (pruneInside properties) := rfl
    rw [groupingMembers, groupingMembers, left, found, pruneInside_eq]
    cases properties <;> rfl

/-- What a definition with a type keyword keeps beside it. -/
def keptBeside (members : Json.Members) : Keyword → Json.Members
  | .array => (members.get? "items").toList.map fun item => ("items", prune item)
  | .map => (members.get? "properties").toList.map fun properties =>
    ("properties", onMembers (pick ["key", "value"]) (pruneInside properties))
  | .decimal => (members.get? "properties").toList.map fun properties =>
    ("properties", onMembers (pick ["precision", "scale"]) properties)
  | .object => (members.get? "properties").toList.map fun properties =>
    ("properties", pruneInside properties)
  | .primitive _ | .null => []

theorem prune_of_keyword {keyword : Keyword}
    (typed : members.get? "type" = some (.text keyword.word)) :
    prune (.object members) =
      .object (("type", .text keyword.word) :: keptBeside members keyword) := by
  have word : typeWord? members = some (.text keyword.word) := typeWord?_of_text typed
  have spelled : keywordOf (.text keyword.word) = .ok keyword := keywordOf_eq_ok_iff.mpr rfl
  rw [prune]
  simp only [word, spelled]
  cases keyword with
  | array =>
    simp only [keptBeside]
    split <;> simp_all
  | map | decimal | object =>
    simp only [keptBeside]
    split <;> simp_all
  | primitive | null => rfl

theorem prune_of_unknown {word : Json} {fault : Fault} (typed : typeWord? members = some word)
    (unknown : keywordOf word = .error fault) :
    prune (.object members) = .object [("type", word)] := by
  rw [prune]
  simp only [typed, unknown]

theorem typeWord?_cons {word : Json} (typed : typeWord? members = some word) (rest : Json.Members) :
    typeWord? (("type", word) :: rest) = some word :=
  typeWord?_eq_some_iff.mpr ⟨rfl, (typeWord?_eq_some_iff.mp typed).2⟩

end Left

/-! ## One level -/

/-- One level of a definition, with pruned parts. -/
def Level.prune : Level → Level
  | .leaf type => .leaf type
  | .array item => .array (Schema.prune item)
  | .map key value => .map (Schema.prune key) (Schema.prune value)
  | .record form members => .record form (pruneAll members)

section Levels

variable {members : Json.Members}

/-- The properties of a composite type that were changed are there or missing as before. If nothing
is left of them they are missing. -/
theorem propertiesOf_changed (composite : Composite) {left : Json.Members}
    {change : Json.Members → Json.Members} (empty : change [] = [])
    (changed : left.get? "properties" = (members.get? "properties").map (onMembers change)) :
    (propertiesOf composite left = .error (.properties composite) ∧
      propertiesOf composite members = .error (.properties composite)) ∨
    ∃ inner, propertiesOf composite members = .ok inner ∧
      (propertiesOf composite left = .error (.properties composite) ∧ change inner = [] ∨
        propertiesOf composite left = .ok (change inner)) := by
  unfold propertiesOf
  rw [changed]
  cases members.get? "properties" with
  | none => exact Or.inl ⟨rfl, rfl⟩
  | some properties =>
    cases properties with
    | object inner =>
      cases inner with
      | nil =>
        rw [Option.map_some, onMembers, empty]
        exact Or.inl ⟨rfl, rfl⟩
      | cons member rest =>
        refine Or.inr ⟨member :: rest, rfl, ?_⟩
        simp only [Option.map_some, onMembers]
        cases change (member :: rest) with
        | nil => exact Or.inl ⟨rfl, rfl⟩
        | cons first others => exact Or.inr rfl
    | null | bool | int | real | text | array => exact Or.inl ⟨rfl, rfl⟩

theorem propertiesOf_keptBeside_object (word : Json) :
    propertiesOf .object (("type", word) :: keptBeside members .object) =
      pruneAll <$> propertiesOf .object members := by
  have changed : Json.Members.get? "properties" (("type", word) :: keptBeside members .object) =
      (members.get? "properties").map (onMembers pruneAll) := by
    rw [keptBeside]
    cases members.get? "properties" with
    | none => rfl
    | some properties => exact congrArg some (pruneInside_eq properties)
  rcases propertiesOf_changed .object pruneAll_nil changed with
    ⟨refused, refused'⟩ | ⟨inner, read, ⟨-, gone⟩ | left⟩
  · rw [refused, refused']
    rfl
  · have nonempty : inner ≠ [] := (propertiesOf_eq_ok_iff.mp read).2
    obtain ⟨member, rest, rfl⟩ := List.exists_cons_of_ne_nil nonempty
    rw [pruneAll_cons] at gone
    cases gone
  · rw [left, read]
    rfl

/-- A decimal type is read alike when its parameters alone are left. -/
theorem decimalOf_keptBeside (word : Json) :
    (decimalOf (("type", word) :: keptBeside members .decimal)).mapError Fault.faultClass =
      (decimalOf members).mapError Fault.faultClass := by
  have changed : Json.Members.get? "properties" (("type", word) :: keptBeside members .decimal) =
      (members.get? "properties").map (onMembers (pick ["precision", "scale"])) := by
    rw [keptBeside]
    cases members.get? "properties" <;> rfl
  have precision (inner : Json.Members) :
      (pick ["precision", "scale"] inner).get? "precision" = inner.get? "precision" :=
    get?_pick List.mem_cons_self
  have scale (inner : Json.Members) :
      (pick ["precision", "scale"] inner).get? "scale" = inner.get? "scale" :=
    get?_pick (List.mem_cons_of_mem _ List.mem_cons_self)
  unfold decimalOf
  rcases propertiesOf_changed .decimal rfl changed with
    ⟨refused, refused'⟩ | ⟨inner, read, ⟨refused, gone⟩ | left⟩
  · rw [refused, refused']
  · have missing : inner.get? "precision" = none := by
      rw [← precision, gone]
      rfl
    rw [refused, read, ok_bind]
    simp only [missing]
    rfl
  · rw [left, read, ok_bind, ok_bind, precision, scale]

/-- A map type is taken apart alike when its parts alone are left. -/
theorem levelOfMap_keptBeside (word : Json) :
    (levelOfMap (("type", word) :: keptBeside members .map)).mapError Fault.faultClass =
      Level.prune <$> (levelOfMap members).mapError Fault.faultClass := by
  have changed : Json.Members.get? "properties" (("type", word) :: keptBeside members .map) =
      (members.get? "properties").map
        (onMembers fun inner => pick ["key", "value"] (pruneAll inner)) := by
    rw [keptBeside]
    cases members.get? "properties" with
    | none => rfl
    | some properties =>
      refine congrArg some ?_
      rw [pruneInside_eq]
      cases properties <;> rfl
  have empty : pick ["key", "value"] (pruneAll []) = [] := by
    rw [pruneAll_nil]
    rfl
  have key (inner : Json.Members) :
      (pick ["key", "value"] (pruneAll inner)).get? "key" = (inner.get? "key").map prune := by
    rw [get?_pick List.mem_cons_self, get?_pruneAll]
  have value (inner : Json.Members) :
      (pick ["key", "value"] (pruneAll inner)).get? "value" = (inner.get? "value").map prune := by
    rw [get?_pick (List.mem_cons_of_mem _ List.mem_cons_self), get?_pruneAll]
  unfold levelOfMap
  rcases propertiesOf_changed .map empty changed with
    ⟨refused, refused'⟩ | ⟨inner, read, ⟨refused, gone⟩ | left⟩
  · rw [refused, refused']
    rfl
  · have missing : inner.get? "key" = none := by
      rw [← Option.map_eq_none_iff, ← key, gone]
      rfl
    rw [refused, read, ok_bind]
    simp only [missing]
    rfl
  · rw [left, read, ok_bind, ok_bind]
    simp only [key, value]
    cases inner.get? "key" with
    | none => rfl
    | some k => cases inner.get? "value" <;> rfl

theorem levelOfKeyword_keptBeside (word : Json) (keyword : Keyword) :
    (levelOfKeyword (("type", word) :: keptBeside members keyword) keyword).mapError
        Fault.faultClass =
      Level.prune <$> (levelOfKeyword members keyword).mapError Fault.faultClass := by
  cases keyword with
  | primitive kind => rfl
  | decimal =>
    simp only [levelOfKeyword, mapError_map, decimalOf_keptBeside]
    cases (decimalOf members).mapError Fault.faultClass <;> rfl
  | array =>
    have items : Json.Members.get? "items" (("type", word) :: keptBeside members .array) =
        (members.get? "items").map prune := by
      rw [keptBeside]
      cases members.get? "items" <;> rfl
    simp only [levelOfKeyword, items]
    cases members.get? "items" <;> rfl
  | map => exact levelOfMap_keptBeside word
  | object =>
    simp only [levelOfKeyword, propertiesOf_keptBeside_object]
    cases propertiesOf .object members <;> rfl
  | null => rfl

theorem levelOfGrouping_pruned {left : Json.Members}
    (grouped : groupingMembers left = pruneAll <$> groupingMembers members) :
    levelOfGrouping left = Level.prune <$> levelOfGrouping members := by
  rw [levelOfGrouping, levelOfGrouping, grouped]
  cases groupingMembers members with
  | error fault => rfl
  | ok inner =>
    rw [ok_map, ok_bind, ok_bind]
    cases inner with
    | nil =>
      rw [pruneAll_nil]
      rfl
    | cons member rest =>
      obtain ⟨name, definition⟩ := member
      simp only [pruneAll_cons, ok_map, Level.prune]

/-- The level of a pruned definition is the pruned level, and a definition that is refused is
refused with the same class. -/
theorem levelOf_prune (v : Json) :
    (levelOf (prune v)).mapError Fault.faultClass =
      Level.prune <$> (levelOf v).mapError Fault.faultClass := by
  cases v with
  | object members =>
    cases word : typeWord? members with
    | none =>
      have untyped := typeWord?_eq_none_iff.mp word
      obtain ⟨left, pruned, untypedLeft, grouped⟩ := groupingMembers_prune untyped
      rw [pruned]
      simp only [levelOf, word, typeWord?_eq_none_iff.mpr untypedLeft,
        levelOfGrouping_pruned grouped, mapError_map]
    | some value =>
      cases spelled : keywordOf value with
      | error fault =>
        rw [prune_of_unknown word spelled]
        simp only [levelOf, word, typeWord?_cons word, spelled]
        rfl
      | ok keyword =>
        obtain rfl := keywordOf_eq_ok_iff.mp spelled
        have typed := (typeWord?_eq_some_iff.mp word).1
        rw [prune_of_keyword typed]
        simp only [levelOf, word, typeWord?_cons word, spelled]
        exact levelOfKeyword_keptBeside _ keyword
  | null | bool | int | real | text | array =>
    rw [prune_of_not_object (by simp)]
    rfl

end Levels

/-! ## Definitions -/

/-- The class of a placed fault and the steps that lead to it. -/
def PlacedFault.report (placed : PlacedFault) : FaultClass × List Step :=
  (placed.fault.faultClass, placed.steps)

/-- A report one step further on. -/
def Step.reportInside (step : Step) (report : FaultClass × List Step) : FaultClass × List Step :=
  (report.1, step :: report.2)

theorem report_here {α : Type} (fault : Fault) :
    (fault.here : Except PlacedFault α).mapError PlacedFault.report =
      .error (fault.faultClass, []) := rfl

theorem report_inside {α : Type} (step : Step) (part : Except PlacedFault α) :
    (step.inside part).mapError PlacedFault.report =
      (part.mapError PlacedFault.report).mapError step.reportInside := by
  cases part <;> rfl

/-- Fields are read alike if their definitions are. -/
theorem fieldsOf_pruneAll {members : Json.Members}
    (each : ∀ member ∈ members, (typeOf (prune member.2)).mapError PlacedFault.report =
      (typeOf member.2).mapError PlacedFault.report) :
    (fieldsOf (pruneAll members)).mapError PlacedFault.report =
      (fieldsOf members).mapError PlacedFault.report := by
  induction members with
  | nil => rw [pruneAll_nil]
  | cons member rest ih =>
    obtain ⟨name, definition⟩ := member
    obtain ⟨first, others⟩ := List.forall_mem_cons.mp each
    cases rest with
    | nil =>
      rw [pruneAll_cons, pruneAll_nil]
      simp only [fieldsOf_singleton, mapError_map, report_inside, first]
    | cons next rest =>
      obtain ⟨name', definition'⟩ := next
      have ih := ih others
      rw [pruneAll_cons] at ih ⊢
      rw [pruneAll_cons]
      simp only [fieldsOf_cons, mapError_bind, mapError_map, report_inside, first, ih]

/-- A pruned definition is read as the definition itself, or is refused with the same class at the
same place. -/
theorem typeOf_prune (v : Json) :
    (typeOf (prune v)).mapError PlacedFault.report = (typeOf v).mapError PlacedFault.report := by
  induction v using induction_on_parts with
  | step v ih =>
    have level := levelOf_prune v
    rw [typeOf_eq, typeOf_eq v]
    cases found : levelOf v with
    | error fault =>
      cases foundLeft : levelOf (prune v) with
      | error left =>
        rw [found, foundLeft] at level
        have same : left.faultClass = fault.faultClass := Except.error.inj level
        simp only [report_here, same]
      | ok left =>
        rw [found, foundLeft] at level
        cases level
    | ok own =>
      have parts : ∀ part ∈ own.parts, (typeOf (prune part.2)).mapError PlacedFault.report =
          (typeOf part.2).mapError PlacedFault.report :=
        fun part mem => ih part (partsOf_of_levelOf found ▸ mem)
      have foundLeft : levelOf (prune v) = .ok own.prune := by
        rw [found] at level
        exact mapError_eq_ok_iff.mp level
      rw [foundLeft]
      cases own with
      | leaf type => rfl
      | array item =>
        have first := parts (.item, item) List.mem_cons_self
        simp only [Level.prune, mapError_map, report_inside, first]
      | map key value =>
        have first := parts (.part .key, key) List.mem_cons_self
        have second := parts (.part .value, value) (List.mem_cons_of_mem _ List.mem_cons_self)
        simp only [Level.prune, mapError_bind, report_inside, first, second]
      | record form members =>
        have fields := fieldsOf_pruneAll fun member mem =>
          parts (.field member.1, member.2) (List.mem_map_of_mem mem)
        simp only [Level.prune, mapError_map, fields]

/-! ## Columns -/

section Columns

variable (chosen : Text → Bool)

theorem Overlay.entryOf_pruneEntry (entry : Json) :
    entryOf (pruneEntry entry) =
      (fun column => (column.1, Schema.prune column.2)) <$> entryOf entry := by
  unfold pruneEntry
  split
  · rename_i name definition
    obtain ⟨left, same⟩ := exists_prune_object definition
    simp only [entryOf, same, ok_map]
  · rename_i noReplacement
    unfold entryOf
    split
    · rename_i name definition
      exact absurd rfl (noReplacement name definition)
    · rfl
    · rfl

/-- The definition that a pruned overlay puts in the place of a column. -/
def pruneAt (key : Text) (definition : Json) : Json :=
  if chosen key then prune definition else definition

theorem Overlay.get?_prune (overlay : Overlay) (key : Text) :
    (overlay.prune chosen).get? key =
      (overlay.get? key).map fun entry => if chosen key then pruneEntry entry else entry := by
  induction overlay with
  | nil => rfl
  | cons member rest ih =>
    rw [Overlay.prune] at ih
    rw [Overlay.prune, List.map_cons, Json.Members.get?, Json.Members.get?, ih]
    split
    · rename_i same
      rw [← same]
      rfl
    · rfl

theorem Overlay.replacement?_prune (overlay : Option Overlay) (key : Text) :
    replacement? (overlay.map (Overlay.prune chosen)) key =
      (Option.map fun column => (column.1, pruneAt chosen key column.2)) <$>
        replacement? overlay key := by
  cases overlay with
  | none => rfl
  | some overlay =>
    unfold replacement?
    rw [Option.map_some, Option.bind_some, Option.bind_some, get?_prune]
    cases Json.Members.get? key overlay with
    | none => rfl
    | some entry =>
      unfold pruneAt
      rw [Option.map_some]
      cases chosen key with
      | true =>
        simp only [if_true, entryOf_pruneEntry]
        cases entryOf entry <;> rfl
      | false =>
        simp only [Bool.false_eq_true, if_false]
        cases entryOf entry <;> rfl

theorem typeOf_pruneAt (key : Text) (v : Json) :
    (typeOf (pruneAt chosen key v)).mapError PlacedFault.report =
      (typeOf v).mapError PlacedFault.report := by
  unfold pruneAt
  split
  · exact typeOf_prune v
  · rfl

/-- A column is read alike when its own definition and its replacement are pruned. -/
theorem columnOf_prune (overlay : Option Overlay) (key : Text) (definition : Json) :
    (columnOf (overlay.map (Overlay.prune chosen)) key (prune definition)).outcome.mapError
        PlacedFault.report =
      (columnOf overlay key definition).outcome.mapError PlacedFault.report := by
  rw [columnOf_outcome, columnOf_outcome, Overlay.replacement?_prune]
  cases Overlay.replacement? overlay key with
  | error fault => rfl
  | ok replacement =>
    cases replacement with
    | none => simp only [ok_map, Option.map_none, mapError_map, report_inside, typeOf_prune]
    | some column =>
      simp only [ok_map, Option.map_some, mapError_map, report_inside, typeOf_pruneAt]

theorem columnsOf_pruneAll (overlay : Option Overlay) (members : Json.Members) :
    (columnsOf (overlay.map (Overlay.prune chosen)) (pruneAll members)).outcome.mapError
        PlacedFault.report =
      (columnsOf overlay members).outcome.mapError PlacedFault.report := by
  induction members with
  | nil =>
    rw [pruneAll_nil]
    rfl
  | cons member rest ih =>
    obtain ⟨name, definition⟩ := member
    cases rest with
    | nil =>
      rw [pruneAll_cons, pruneAll_nil]
      simp only [columnsOf_outcome_singleton, mapError_map, columnOf_prune]
    | cons next rest =>
      obtain ⟨name', definition'⟩ := next
      rw [pruneAll_cons] at ih ⊢
      rw [pruneAll_cons]
      simp only [columnsOf_outcome_cons, mapError_bind, mapError_map, columnOf_prune, ih]

end Columns

/-! ## Documents -/

/-- The class of an error and its path. -/
def SchemaError.report (e : SchemaError) : FaultClass × Option Text :=
  (e.fault.faultClass, e.path)

theorem report_toError {α : Type} (start : Text) (x : Except PlacedFault α) :
    (x.mapError (PlacedFault.toError start)).mapError SchemaError.report =
      (x.mapError PlacedFault.report).mapError fun report =>
        (report.1, some (pathFrom start report.2)) := by
  cases x <;> rfl

/-- What a document is read as: its record, or the class and the path of the error that it is
refused with. -/
def readAs (overlay : Option Overlay) (document : Json) :
    Except (FaultClass × Option Text) Record :=
  (recordOf overlay document).outcome.mapError SchemaError.report

theorem readAs_prune (chosen : Text → Bool) (overlay : Option Overlay) (document : Json) :
    readAs (overlay.map (Overlay.prune chosen)) (prune document) = readAs overlay document := by
  unfold readAs
  cases document with
  | object members =>
    cases word : typeWord? members with
    | none =>
      have untyped := typeWord?_eq_none_iff.mp word
      obtain ⟨left, pruned, untypedLeft, grouped⟩ := groupingMembers_prune untyped
      rw [pruned, recordOf_outcome_of_untyped untyped, recordOf_outcome_of_untyped untypedLeft,
        report_toError, report_toError, groupingOf, groupingOf, grouped]
      cases groupingMembers members with
      | error fault => rfl
      | ok inner =>
        have columns := columnsOf_pruneAll chosen overlay inner
        simp only [ok_map, mapError_ok, ok_bind, mapError_bind, columns]
    | some value =>
      cases spelled : keywordOf value with
      | error fault =>
        rw [prune_of_unknown word spelled]
        simp only [recordOf, word, typeWord?_cons word, spelled]
      | ok keyword =>
        obtain rfl := keywordOf_eq_ok_iff.mp spelled
        have typed := (typeWord?_eq_some_iff.mp word).1
        rw [prune_of_keyword typed]
        cases keyword with
        | object =>
          have left : Json.Members.get? "type"
              (("type", .text Keyword.object.word) :: keptBeside members .object) =
              some (.text "object") := rfl
          rw [recordOf_outcome_of_object typed, recordOf_outcome_of_object left, report_toError,
            report_toError, explicitOf, explicitOf, propertiesOf_keptBeside_object]
          cases propertiesOf .object members with
          | error fault => rfl
          | ok properties =>
            have fields := fieldsOf_pruneAll fun member (_ : member ∈ properties) =>
              typeOf_prune member.2
            simp only [ok_map, mapError_ok, ok_bind, mapError_bind, fields]
        | primitive | decimal | array | map | null =>
          simp only [recordOf, word, typeWord?_cons word, spelled]
  | null | bool | int | real | text | array =>
    rw [prune_of_not_object (by simp)]
    rfl

/-- Annotations change nothing. A document and what is left of it are read as the same, also with
some replacements of the overlay pruned, and documents that differ in their annotations only are
read as the same. -/
theorem annotations_change_nothing (chosen : Text → Bool) (overlay : Option Overlay)
    (document : Json) :
    readAs (overlay.map (Overlay.prune chosen)) (prune document) = readAs overlay document ∧
      ∀ other, prune other = prune document → readAs overlay other = readAs overlay document := by
  refine ⟨readAs_prune chosen overlay document, fun other same => ?_⟩
  have own := readAs_prune (fun _ => false) overlay document
  have others := readAs_prune (fun _ => false) overlay other
  rw [← own, ← others, same]

/-- A grouping with annotations beside its fields and inside of one of them. -/
def annotatedGrouping : Json :=
  .object [("$schema", .text "draft"), ("title", .text "Orders"),
    ("properties", .object
      [("id", .object [("description", .text "key"), ("type", .text "string")])]),
    ("required", .array [.text "id"])]

/-- The same grouping without annotations. -/
def plainGrouping : Json :=
  .object [("properties", .object [("id", .object [("type", .text "string")])])]

theorem annotatedGrouping_is_plain :
    readAs none annotatedGrouping = readAs none plainGrouping ∧
      readAs none plainGrouping = .ok ⟨.implicit, .last "id" (.primitive .string)⟩ := by
  have same : prune annotatedGrouping = prune plainGrouping := by
    rw [annotatedGrouping, plainGrouping, prune_of_untyped (Or.inl (by cbv)),
      prune_of_untyped (Or.inl (by cbv))]
    cbv
  refine ⟨(annotations_change_nothing (fun _ => true) none plainGrouping).2 _ same, ?_⟩
  have describes :
      DescribesDocument none plainGrouping ⟨.implicit, .last "id" (.primitive .string)⟩ :=
    .grouping (Or.inl (by cbv)) (Or.inl (by cbv)) (.last (.kept rfl) (.primitive rfl))
  rw [readAs, read_of_describesDocument describes]
  rfl

end TableDdl.Schema
