import TableDdl.Proofs.Schema.OwnFault

/-!
# The first fault of a document

`documentVisits` walks through a document depth first, a definition before its parts and the parts
in order, without looking for faults and without stopping at one. In a grouping the overlay's entry
for a member is visited just before the definition that it puts in the member's place. A document is
refused because of the first visit that has a fault, with the place of that visit as path
(`recordOf_outcome_eq_error_iff`).
-/

namespace TableDdl.Schema

open Outcome

/-! ## Walks -/

/-- What a walk visits: a definition, or the overlay's entry for a column. -/
inductive Visit where
  | definition (value : Json)
  | entry (value : Json)

/-- A visit with the steps that lead to it. -/
abbrev PlacedVisit := List Step × Visit

/-- A visit one step further on. -/
def PlacedVisit.behind (step : Step) (placed : PlacedVisit) : PlacedVisit :=
  (step :: placed.1, placed.2)

/-- The walk through a definition. -/
def definitionVisits (v : Json) : List PlacedVisit :=
  ([], .definition v) :: (partsOf v).attach.flatMap fun part =>
    (definitionVisits part.1.2).map (PlacedVisit.behind part.1.1)
termination_by sizeOf v
decreasing_by exact sizeOf_lt_of_mem_partsOf part.2

/-- The walk through a member of a grouping that is a document. A replacement is visited in place of
the member's own definition, under the new name; an entry that is no replacement is visited
alone. -/
def columnVisits (overlay : Option Overlay) (key : Text) (v : Json) : List PlacedVisit :=
  match overlay.bind (·.get? key) with
  | none => (definitionVisits v).map (PlacedVisit.behind (.field key))
  | some entry =>
    ([.field key], .entry entry) ::
      match entry with
      | .object [(name, .object inner)] =>
        (definitionVisits (.object inner)).map (PlacedVisit.behind (.field name))
      | _ => []

/-- The walk through a document. -/
def documentVisits (overlay : Option Overlay) : Json → List PlacedVisit
  | .object members =>
    match Json.Members.get? "type" members with
    | none | some (.object _) =>
      ([], .definition (.object members)) ::
        (groupedMembers members).flatMap fun (key, v) => columnVisits overlay key v
    | some _ => definitionVisits (.object members)
  | v => definitionVisits v

/-! ## Faults of visits -/

/-- What can be wrong with an overlay's entry: it is no object with one member, or its member is no
object. -/
inductive HasEntryFault : Json → Fault → Prop
  | entry {v : Json} : (∀ member, v ≠ .object [member]) → HasEntryFault v .overlayEntry
  | definition {name : Text} {v : Json} :
    (∀ inner, v ≠ .object inner) → HasEntryFault (.object [(name, v)]) .overlayDefinition

/-- What is wrong with what is visited. -/
def Visit.HasFault : Visit → Fault → Prop
  | .definition v => Schema.HasFault v
  | .entry v => HasEntryFault v

/-- The class of the faults of what is visited, which depends on its type keyword alone. -/
def Visit.faultClass : Visit → FaultClass
  | .definition (.object members) =>
    match Json.Members.get? "type" members with
    | some (.text word) =>
      match Keyword.ofText? word with
      | some .null => .unsupportedType
      | some _ => .malformedNode
      | none => .unknownType
    | none | some (.object _) => .malformedNode
    | some _ => .unknownType
  | _ => .malformedNode

/-- Among the visits of a walk, the first one that has a fault is `visit`, at the place `steps`, and
its fault is `fault`. -/
def IsFirstFault (visits : List PlacedVisit) (steps : List Step) (visit : Visit) (fault : Fault) :
    Prop :=
  ∃ before after, visits = before ++ (steps, visit) :: after ∧
    (∀ earlier ∈ before, ∀ f, ¬ earlier.2.HasFault f) ∧ visit.HasFault fault

/-- What forbids a value to be a document at all: it is no object, or it has the keyword of a type
that is no record. -/
inductive HasRootFault : Json → Fault → Prop
  | notObject {v : Json} : (∀ members, v ≠ .object members) → HasRootFault v (.rootNotObject v)
  | keyword {members : Json.Members} {keyword : Keyword} :
    members.get? "type" = some (.text keyword.word) → keyword ≠ .null → keyword ≠ .object →
    HasRootFault (.object members) (.rootKeyword keyword)

/-! ## The first fault as a search -/

/-- A fault one step further on. -/
def PlacedFault.behind (step : Step) (placed : PlacedFault) : PlacedFault :=
  ⟨step :: placed.steps, placed.fault⟩

/-- The fault of what is visited, as the checks find it. -/
def Visit.fault? : Visit → Option Fault
  | .definition v => error? (levelOf v)
  | .entry v => error? (Overlay.entryOf v)

/-- The first fault of some visits, with its place. -/
def firstFault? (visits : List PlacedVisit) : Option PlacedFault :=
  visits.findSome? fun placed => placed.2.fault?.map (⟨placed.1, ·⟩)

theorem entryOf_eq_error_iff {v : Json} {fault : Fault} :
    Overlay.entryOf v = .error fault ↔ HasEntryFault v fault := by
  constructor
  · intro read
    unfold Overlay.entryOf at read
    split at read
    · cases read
    · rename_i member noReplacement
      cases read
      obtain ⟨name, definition⟩ := member
      exact .definition fun inner eq => noReplacement name inner (by rw [eq])
    · rename_i noSingle
      cases read
      exact .entry noSingle
  · intro isFault
    cases isFault with
    | entry noSingle =>
      unfold Overlay.entryOf
      split
      · exact absurd rfl (noSingle _)
      · exact absurd rfl (noSingle _)
      · rfl
    | @definition name definition noObject =>
      cases definition with
      | object inner => exact absurd rfl (noObject inner)
      | null | bool | int | real | text | array => rfl

theorem Visit.fault?_eq_some_iff {visit : Visit} {fault : Fault} :
    visit.fault? = some fault ↔ visit.HasFault fault := by
  cases visit with
  | definition v => exact error?_eq_some_iff.trans levelOf_eq_error_iff
  | entry v => exact error?_eq_some_iff.trans entryOf_eq_error_iff

theorem Visit.fault?_eq_none_iff {visit : Visit} :
    visit.fault? = none ↔ ∀ fault, ¬ visit.HasFault fault := by
  simp only [Option.eq_none_iff_forall_ne_some, ne_eq, fault?_eq_some_iff]

/-- The search stops at the first visit with a fault. -/
theorem firstFault?_eq_some_iff {visits : List PlacedVisit} {placed : PlacedFault} :
    firstFault? visits = some placed ↔
      ∃ visit, IsFirstFault visits placed.steps visit placed.fault := by
  simp only [firstFault?, List.findSome?_eq_some_iff, Option.map_eq_some_iff,
    Option.map_eq_none_iff, Visit.fault?_eq_some_iff, Visit.fault?_eq_none_iff, IsFirstFault]
  constructor
  · intro h
    obtain ⟨before, ⟨steps, visit⟩, after, eq, ⟨fault, isFault, rfl⟩, noEarlier⟩ := h
    exact ⟨visit, before, after, eq, noEarlier, isFault⟩
  · intro h
    obtain ⟨visit, before, after, eq, noEarlier, isFault⟩ := h
    exact ⟨before, (placed.steps, visit), after, eq, ⟨placed.fault, isFault, rfl⟩, noEarlier⟩

theorem findSome?_cons_eq_or {α β : Type} (f : α → Option β) (a : α) (as : List α) :
    (a :: as).findSome? f = (f a).or (as.findSome? f) := by
  rw [List.findSome?_cons]
  cases f a <;> rfl

theorem findSome?_congr {α β : Type} {f g : α → Option β} {as : List α}
    (same : ∀ a ∈ as, f a = g a) : as.findSome? f = as.findSome? g := by
  induction as with
  | nil => rfl
  | cons a as ih =>
    rw [findSome?_cons_eq_or, findSome?_cons_eq_or, same a List.mem_cons_self,
      ih fun b mem => same b (List.mem_cons_of_mem _ mem)]

theorem firstFault?_cons (steps : List Step) (visit : Visit) (visits : List PlacedVisit) :
    firstFault? ((steps, visit) :: visits) =
      (visit.fault?.map (⟨steps, ·⟩)).or (firstFault? visits) := by
  exact findSome?_cons_eq_or _ _ _

theorem firstFault?_map_behind (step : Step) (visits : List PlacedVisit) :
    firstFault? (visits.map (PlacedVisit.behind step)) =
      (firstFault? visits).map (PlacedFault.behind step) := by
  induction visits with
  | nil => rfl
  | cons placed visits ih =>
    obtain ⟨steps, visit⟩ := placed
    rw [List.map_cons, PlacedVisit.behind, firstFault?_cons, firstFault?_cons, ih]
    cases visit.fault? <;> rfl

theorem firstFault?_flatMap {α : Type} (parts : List α) (visits : α → List PlacedVisit) :
    firstFault? (parts.flatMap visits) = parts.findSome? fun part => firstFault? (visits part) := by
  induction parts with
  | nil => rfl
  | cons part parts ih =>
    rw [List.flatMap_cons, findSome?_cons_eq_or, ← ih]
    exact List.findSome?_append

theorem definitionVisits_eq (v : Json) :
    definitionVisits v = ([], .definition v) :: (partsOf v).flatMap fun part =>
      (definitionVisits part.2).map (PlacedVisit.behind part.1) := by
  rw [definitionVisits]
  congr 1
  conv_rhs => rw [← List.attach_map_subtype_val (partsOf v), List.flatMap_map]

theorem firstFault?_definitionVisits (v : Json) :
    firstFault? (definitionVisits v) =
      ((error? (levelOf v)).map (⟨[], ·⟩)).or ((partsOf v).findSome? fun part =>
        (firstFault? (definitionVisits part.2)).map (PlacedFault.behind part.1)) := by
  rw [definitionVisits_eq, firstFault?_cons, firstFault?_flatMap]
  simp only [firstFault?_map_behind]
  rfl

/-! ## The reading of a definition stops at the first fault -/

theorem error?_inside {α : Type} (step : Step) (part : Except PlacedFault α) :
    error? (step.inside part) = (error? part).map (PlacedFault.behind step) :=
  error?_mapError

theorem error?_fieldsOf {members : Json.Members} (nonempty : members ≠ []) :
    error? (fieldsOf members) = (fieldParts members).findSome? fun part =>
      (error? (typeOf part.2)).map (PlacedFault.behind part.1) := by
  induction members with
  | nil => exact absurd rfl nonempty
  | cons member rest ih =>
    obtain ⟨name, definition⟩ := member
    cases rest with
    | nil =>
      rw [fieldsOf_singleton, error?_map, error?_inside, fieldParts_cons, findSome?_cons_eq_or]
      exact (Option.or_none).symm
    | cons next rest =>
      have others := ih (List.cons_ne_nil _ _)
      rw [fieldParts_cons, findSome?_cons_eq_or, fieldsOf_cons,
        error?_bind fun type => error?_map.trans others, error?_inside]

theorem error?_typeOf (v : Json) :
    error? (typeOf v) =
      ((error? (levelOf v)).map (⟨[], ·⟩)).or ((partsOf v).findSome? fun part =>
        (error? (typeOf part.2)).map (PlacedFault.behind part.1)) := by
  rw [typeOf_eq]
  cases found : levelOf v with
  | error fault => rfl
  | ok level =>
    rw [partsOf_of_levelOf found]
    cases level with
    | leaf type => rfl
    | array item =>
      simp only [error?_map, error?_inside, Level.parts, findSome?_cons_eq_or]
      exact (Option.or_none).symm
    | map key value =>
      have second : ∀ k : FieldType,
          error? ((Step.part .value).inside (typeOf value) >>= fun v => .ok (FieldType.map k v)) =
            (error? (typeOf value)).map (PlacedFault.behind (.part .value)) := by
        intro k
        rw [error?_bind_ok, error?_inside]
      simp only [error?_bind second, error?_inside, Level.parts, findSome?_cons_eq_or]
      exact congrArg _ (Option.or_none).symm
    | record form members =>
      have nonempty : members ≠ [] := ne_nil_of_levelOf_record found
      simp only [error?_map, error?_fieldsOf nonempty, Level.parts]
      rfl

/-- A definition is refused because of the first fault of the walk through it. -/
theorem error?_typeOf_eq_firstFault? (v : Json) :
    error? (typeOf v) = firstFault? (definitionVisits v) := by
  induction v using induction_on_parts with
  | step v ih =>
    rw [error?_typeOf, firstFault?_definitionVisits]
    congr 1
    refine findSome?_congr fun part mem => ?_
    rw [ih part mem]

/-! ## The reading of a document stops at the first fault -/

theorem error?_columnOf (overlay : Option Overlay) (key : Text) (v : Json) :
    error? (columnOf overlay key v).outcome = firstFault? (columnVisits overlay key v) := by
  rw [columnOf_outcome]
  unfold Overlay.replacement? columnVisits
  cases overlay.bind (·.get? key) with
  | none => rw [error?_map, error?_inside, error?_typeOf_eq_firstFault?, firstFault?_map_behind]
  | some entry =>
    simp only [firstFault?_cons, Visit.fault?]
    cases read : Overlay.entryOf entry with
    | error fault => rfl
    | ok replacement =>
      obtain ⟨name, definition⟩ := replacement
      obtain ⟨inner, rfl, rfl⟩ := entryOf_eq_ok_iff.1 read
      simp only [Functor.map, Except.map]
      show error? ((name, ·) <$> (Step.field name).inside (typeOf (.object inner))) = _
      rw [error?_map, error?_inside, error?_typeOf_eq_firstFault?, firstFault?_map_behind]
      rfl

theorem error?_columnsOf {overlay : Option Overlay} {members : Json.Members}
    (nonempty : members ≠ []) :
    error? (columnsOf overlay members).outcome =
      firstFault? (members.flatMap fun (key, v) => columnVisits overlay key v) := by
  rw [firstFault?_flatMap]
  induction members with
  | nil => exact absurd rfl nonempty
  | cons member rest ih =>
    obtain ⟨key, v⟩ := member
    rw [findSome?_cons_eq_or, ← error?_columnOf]
    cases rest with
    | nil =>
      rw [columnsOf_outcome_singleton, error?_map]
      exact Option.or_none.symm
    | cons next rest =>
      rw [columnsOf_outcome_cons, error?_bind fun column => error?_map, ih (List.cons_ne_nil _ _)]

/-- The fault of a document without a type keyword: its own, or the first one of its columns. -/
theorem error?_groupingOf {overlay : Option Overlay} {members : Json.Members}
    (untyped : IsUntyped members) :
    error? (groupingOf overlay members) =
      firstFault? (documentVisits overlay (.object members)) := by
  have visits : documentVisits overlay (.object members) =
      ([], .definition (.object members)) ::
        (groupedMembers members).flatMap fun (key, v) => columnVisits overlay key v := by
    rcases untyped with absent | ⟨inner, object⟩
    · simp only [documentVisits, absent]
    · simp only [documentVisits, object]
  have level : levelOf (.object members) = levelOfGrouping members := by
    simp only [levelOf, typeWord?_eq_none_iff.2 untyped]
  rw [visits, firstFault?_cons, Visit.fault?, level, levelOfGrouping, groupingOf]
  cases read : groupingMembers members with
  | error fault => rfl
  | ok inner =>
    rw [groupedMembers_of_ok read]
    cases inner with
    | nil => rfl
    | cons first rest =>
      show error? ((columnsOf overlay (first :: rest)).outcome >>= _) = Option.or none _
      rw [error?_bind_ok, error?_columnsOf (List.cons_ne_nil _ _), Option.none_or]

theorem documentVisits_of_text {overlay : Option Overlay} {members : Json.Members} {word : Text}
    (typed : members.get? "type" = some (.text word)) :
    documentVisits overlay (.object members) = definitionVisits (.object members) := by
  simp only [documentVisits, typed]

/-- The fault of an explicit object as a document is its fault as a definition. -/
theorem error?_explicitOf {overlay : Option Overlay} {members : Json.Members}
    (typed : members.get? "type" = some (.text "object")) :
    error? (explicitOf members) = firstFault? (documentVisits overlay (.object members)) := by
  have level : levelOf (.object members) = .record .explicit <$> propertiesOf .object members := by
    have keyword : keywordOf (.text "object") = .ok .object := keywordOf_eq_ok_iff.2 rfl
    simp only [levelOf, typeWord?_of_text typed, keyword]
    rfl
  rw [documentVisits_of_text typed, ← error?_typeOf_eq_firstFault?, typeOf_eq, level, explicitOf]
  cases propertiesOf .object members with
  | error fault => rfl
  | ok properties =>
    show error? (fieldsOf properties >>= _) = error? (_ <$> fieldsOf properties)
    rw [error?_bind_ok, error?_map]

/-- The fault of a document whose keyword is unknown or `null` is that of a definition. -/
theorem firstFault?_of_hasFault {overlay : Option Overlay} {members : Json.Members} {word : Json}
    {fault : Fault} (typed : typeWord? members = some word)
    (isFault : HasFault (.object members) fault) :
    firstFault? (documentVisits overlay (.object members)) = some ⟨[], fault⟩ := by
  obtain ⟨found, noObject⟩ := typeWord?_eq_some_iff.1 typed
  have visits : documentVisits overlay (.object members) = definitionVisits (.object members) := by
    cases word with
    | object inner => exact absurd rfl (noObject inner)
    | null | bool | int | real | text | array => simp only [documentVisits, found]
  rw [visits, firstFault?_definitionVisits, levelOf_eq_error_iff.2 isFault]
  rfl

theorem recordOf_outcome_of_rootFault {overlay : Option Overlay} {document : Json} {fault : Fault}
    (root : HasRootFault document fault) :
    (recordOf overlay document).outcome = .error ⟨fault, none⟩ := by
  cases root with
  | notObject noObject =>
    cases document with
    | object members => exact absurd rfl (noObject members)
    | null | bool | int | real | text | array => rfl
  | @keyword members keyword typed noNull noObject =>
    simp only [recordOf, typeWord?_of_text typed, keywordOf_eq_ok_iff.2 rfl]
    cases keyword with
    | null => exact absurd rfl noNull
    | object => exact absurd rfl noObject
    | primitive | decimal | array | map => rfl

theorem error?_recordOf {overlay : Option Overlay} {document : Json}
    (noRoot : ∀ fault, ¬ HasRootFault document fault) :
    error? (recordOf overlay document).outcome =
      (firstFault? (documentVisits overlay document)).map (PlacedFault.toError []) := by
  cases document with
  | object members =>
    cases word : typeWord? members with
    | none =>
      have untyped := typeWord?_eq_none_iff.1 word
      rw [recordOf_outcome_of_untyped untyped, error?_mapError, error?_groupingOf untyped]
    | some value =>
      have typed := (typeWord?_eq_some_iff.1 word).1
      cases read : keywordOf value with
      | error fault =>
        have isFault : HasFault (.object members) fault := by
          rw [← levelOf_eq_error_iff]
          simp only [levelOf, word, read]
          rfl
        simp only [firstFault?_of_hasFault word isFault, recordOf, word, read]
        rfl
      | ok keyword =>
        obtain rfl := keywordOf_eq_ok_iff.1 read
        cases keyword with
        | object =>
          rw [recordOf_outcome_of_object typed, error?_mapError, error?_explicitOf typed]
        | null =>
          simp only [firstFault?_of_hasFault word (.keyword typed .null), recordOf, word, read]
          rfl
        | primitive | decimal | array | map =>
          refine absurd (.keyword typed ?_ ?_) (noRoot _)
          all_goals
            intro eq
            cases eq
  | null | bool | int | real | text | array =>
    refine absurd (.notObject ?_) (noRoot _)
    intro _ eq
    cases eq

/-! ## The classes of faults -/

theorem ParameterFault.faultClass_eq {parameter : Parameter} {value : Json} {fault : Fault}
    (isFault : ParameterFault parameter value fault) : fault.faultClass = .malformedNode := by
  cases isFault <;> rfl

theorem KeywordFault.faultClass_eq {members : Json.Members} {keyword : Keyword} {fault : Fault}
    (isFault : KeywordFault members keyword fault) :
    fault.faultClass = if keyword = .null then .unsupportedType else .malformedNode := by
  cases isFault with
  | decimal isFault =>
    cases isFault with
    | precision _ _ _ isFault => exact isFault.faultClass_eq
    | scale _ _ _ _ isFault => exact isFault.faultClass_eq
    | properties | noPrecision | noScale => rfl
  | map isFault => cases isFault <;> rfl
  | array | object | null => rfl

/-- The class of a fault is read off the type keyword of the definition that has it. -/
theorem Visit.faultClass_eq {visit : Visit} {fault : Fault} (isFault : visit.HasFault fault) :
    fault.faultClass = visit.faultClass := by
  cases visit with
  | entry v => cases (show HasEntryFault v fault from isFault) <;> rfl
  | definition v =>
    cases (show Schema.HasFault v fault from isFault) with
    | notObject noObject =>
      cases v with
      | object members => exact absurd rfl (noObject members)
      | null | bool | int | real | text | array => rfl
    | @unknownValue members value typed noObject noWord =>
      simp only [faultClass, typed]
      cases value with
      | object inner => exact absurd rfl (noObject inner)
      | text word => exact absurd rfl (noWord word)
      | null | bool | int | real | array => rfl
    | unknownWord typed unknown =>
      simp only [faultClass, typed, ofText?_eq_none_iff.2 unknown]
      rfl
    | @keyword members keyword fault typed isFault =>
      simp only [faultClass, typed, Keyword.ofText?_word, isFault.faultClass_eq]
      cases keyword <;> rfl
    | groupingProperties untyped =>
      rcases untyped with absent | ⟨inner, object⟩
      · simp only [faultClass, absent]
        rfl
      · simp only [faultClass, object]
        rfl
    | groupingEmpty untyped =>
      rcases untyped with absent | ⟨inner, object⟩
      · simp only [faultClass, absent]
        rfl
      · simp only [faultClass, object]
        rfl

theorem HasRootFault.faultClass_eq {document : Json} {fault : Fault}
    (root : HasRootFault document fault) : fault.faultClass = .invalidRootType := by
  cases root <;> rfl

/-- A document is refused either because it cannot be a document at all, without a path, or because
of the first fault of the walk through it, with the place of this fault as path and in the class
that the faulty definition or entry gives. -/
theorem recordOf_outcome_eq_error_iff (overlay : Option Overlay) (document : Json)
    (e : SchemaError) :
    (recordOf overlay document).outcome = .error e ↔
      HasRootFault document e.fault ∧ e.fault.faultClass = .invalidRootType ∧ e.path = none ∨
        (∀ fault, ¬ HasRootFault document fault) ∧
          ∃ steps visit, IsFirstFault (documentVisits overlay document) steps visit e.fault ∧
            e.fault.faultClass = visit.faultClass ∧ e.path = some (pathFrom [] steps) := by
  obtain ⟨fault, path⟩ := e
  by_cases root : ∃ f, HasRootFault document f
  · obtain ⟨f, root⟩ := root
    have noOther : ¬ ∀ f, ¬ HasRootFault document f := fun none => none f root
    simp only [noOther, false_and, or_false]
    constructor
    · intro refused
      rw [recordOf_outcome_of_rootFault root] at refused
      cases refused
      exact ⟨root, root.faultClass_eq, rfl⟩
    · intro h
      obtain ⟨root', -, rfl⟩ := h
      exact recordOf_outcome_of_rootFault root'
  · have noRoot : ∀ f, ¬ HasRootFault document f := fun f isRoot => root ⟨f, isRoot⟩
    rw [← error?_eq_some_iff, error?_recordOf noRoot, Option.map_eq_some_iff]
    simp only [noRoot, false_and, false_or, not_false_eq_true, implies_true, true_and]
    constructor
    · intro h
      obtain ⟨placed, first, eq⟩ := h
      obtain ⟨visit, isFirst⟩ := firstFault?_eq_some_iff.1 first
      cases eq
      obtain ⟨_, _, _, _, isFault⟩ := id isFirst
      exact ⟨placed.steps, visit, isFirst, Visit.faultClass_eq isFault, rfl⟩
    · intro h
      obtain ⟨steps, visit, isFirst, -, rfl⟩ := h
      exact ⟨⟨steps, fault⟩, firstFault?_eq_some_iff.2 ⟨visit, isFirst⟩, rfl⟩

end TableDdl.Schema
