import TableDdl.Proofs.Document.Agreement
import TableDdl.Proofs.Log.Threshold
import TableDdl.Proofs.Schema.Substitution

/-!
# What compiling reports

Compiling reports each replacement before the definition of it is read, that an overlay is skipped
before an explicit object is read, and the number of columns at the end. `ReportsMembers` and
`ReportsDocument` say which events come from a document and an overlay, without a reading: the
replacements are reported up to and including the first member that is no column. A document and an
overlay tell one sequence of events (`ReportsDocument.unique`).
-/

namespace TableDdl

open Json Outcome Schema

/-! ## The events of a document -/

namespace Schema

/-- The event of a column whose entry is a replacement. -/
def Overlay.applied? (overlay : Option Overlay) (key : Text) : Option Event :=
  match Overlay.entry? overlay key with
  | some (.object [(name, .object _)]) => some (.overlayApplied key name)
  | _ => none

/-- A member of a grouping gives a column: neither the entry for its key nor what stands in its
place is at fault. -/
def GivesColumn (overlay : Option Overlay) (member : Text × Json) : Prop :=
  ∃ field, IsColumn overlay member field

/-- The events of the replacements of some members. -/
def appliedTo (overlay : Option Overlay) (members : Json.Members) : List Event :=
  members.filterMap fun member => Overlay.applied? overlay member.1

/-- `ReportsMembers overlay members events`: the events are those of the replacements up to and
including the first member that gives no column. -/
inductive ReportsMembers (overlay : Option Overlay) : Json.Members → List Event → Prop
  | all {members : Json.Members} : (∀ member ∈ members, GivesColumn overlay member) →
    ReportsMembers overlay members (appliedTo overlay members)
  | upTo {before : Json.Members} {member : Text × Json} {after : Json.Members} :
    (∀ earlier ∈ before, GivesColumn overlay earlier) → ¬ GivesColumn overlay member →
    ReportsMembers overlay (before ++ member :: after) (appliedTo overlay (before ++ [member]))

/-- `ReportsDocument overlay v events`: the events come from the document `v`. A grouping reports
its replacements, and an explicit object that there is something in the overlay. Anything else is no
document and reports nothing. -/
inductive ReportsDocument (overlay : Option Overlay) : Json → List Event → Prop
  | grouping {members inner : Json.Members} {events : List Event} : IsUntyped members →
    IsGroupingOf members inner → ReportsMembers overlay inner events →
    ReportsDocument overlay (.object members) events
  | object {members : Json.Members} : members.get? "type" = some (.text "object") →
    ReportsDocument overlay (.object members)
      (if (overlay.getD []).isEmpty then [] else [.overlaySkipped])
  | refused {v : Json} :
    (∀ members : Json.Members, v = .object members →
      members.get? "type" ≠ some (.text "object") ∧
        ¬ (IsUntyped members ∧ ∃ inner, IsGroupingOf members inner)) →
    ReportsDocument overlay v []

variable {overlay : Option Overlay} {member : Text × Json} {members : Json.Members}
  {events : List Event}

/-! ## The events of the members -/

/-- A replacement is reported exactly if there is one. -/
theorem applied?_eq (overlay : Option Overlay) (key : Text) :
    Overlay.applied? overlay key =
      match Overlay.replacement? overlay key with
      | .ok (some (name, _)) => some (.overlayApplied key name)
      | _ => none := by
  rw [Overlay.applied?, Overlay.entry?]
  cases found : overlay.bind (·.get? key) with
  | none => simp only [Overlay.replacement?, found]
  | some entry =>
    simp only [Overlay.replacement?, found]
    cases read : Overlay.entryOf entry with
    | ok replacement =>
      obtain ⟨name, definition⟩ := replacement
      obtain ⟨inner, rfl, rfl⟩ := entryOf_eq_ok_iff.mp read
      rfl
    | error fault =>
      show _ = none
      split
      · rename_i name inner same
        cases same
        cases read
      · rfl

theorem columnOf_events (overlay : Option Overlay) (key : Text) (v : Json) :
    (columnOf overlay key v).events = (Overlay.applied? overlay key).toList := by
  rw [columnOf, applied?_eq]
  rcases Overlay.replacement? overlay key with fault | _ | ⟨name, replacement⟩ <;> rfl

theorem givesColumn_iff :
    GivesColumn overlay member ↔
      ∃ column, (columnOf overlay member.1 member.2).outcome = .ok column := by
  apply exists_congr
  intro field
  rw [isColumn_iff, columnOf_outcome_eq_ok_iff]

theorem appliedTo_cons (member : Text × Json) (members : Json.Members) :
    appliedTo overlay (member :: members) =
      (Overlay.applied? overlay member.1).toList ++ appliedTo overlay members := by
  rw [appliedTo, List.filterMap_cons]
  cases Overlay.applied? overlay member.1 <;> rfl

theorem appliedTo_singleton (member : Text × Json) :
    appliedTo overlay [member] = (Overlay.applied? overlay member.1).toList := by
  rw [appliedTo_cons, appliedTo, List.filterMap_nil, List.append_nil]

theorem ReportsMembers.cons (gives : GivesColumn overlay member)
    (reports : ReportsMembers overlay members events) :
    ReportsMembers overlay (member :: members)
      ((Overlay.applied? overlay member.1).toList ++ events) := by
  cases reports with
  | all each =>
    rw [← appliedTo_cons]
    exact .all (List.forall_mem_cons.mpr ⟨gives, each⟩)
  | @upTo before other after each not =>
    rw [← appliedTo_cons]
    have longer : ∀ earlier ∈ member :: before, GivesColumn overlay earlier :=
      List.forall_mem_cons.mpr ⟨gives, each⟩
    exact .upTo longer not

theorem ReportsMembers.first (not : ¬ GivesColumn overlay member) (members : Json.Members) :
    ReportsMembers overlay (member :: members) (Overlay.applied? overlay member.1).toList := by
  have none : ∀ earlier ∈ ([] : Json.Members), GivesColumn overlay earlier := nofun
  have reports : ReportsMembers overlay ([] ++ member :: members) _ := .upTo none not
  rwa [List.nil_append, List.nil_append, appliedTo_singleton] at reports

/-- Members report the replacement of the first of them, and what the others report if the first
gives a column. -/
theorem ReportsMembers.of_cons (reports : ReportsMembers overlay (member :: members) events) :
    ¬ GivesColumn overlay member ∧ events = (Overlay.applied? overlay member.1).toList ∨
      GivesColumn overlay member ∧ ∃ others, ReportsMembers overlay members others ∧
        events = (Overlay.applied? overlay member.1).toList ++ others := by
  generalize whole : member :: members = all at reports
  cases reports with
  | all each =>
    cases whole
    obtain ⟨gives, each⟩ := List.forall_mem_cons.mp each
    exact Or.inr ⟨gives, _, .all each, appliedTo_cons _ _⟩
  | @upTo before last after each not =>
    cases before with
    | nil =>
      cases whole
      exact Or.inl ⟨not, appliedTo_singleton member⟩
    | cons first before =>
      cases whole
      obtain ⟨gives, each⟩ := List.forall_mem_cons.mp each
      exact Or.inr ⟨gives, _, .upTo each not, appliedTo_cons _ _⟩

theorem ReportsMembers.eq_nil (reports : ReportsMembers overlay [] events) : events = [] := by
  generalize whole : ([] : Json.Members) = all at reports
  cases reports with
  | all =>
    cases whole
    rfl
  | @upTo before =>
    cases before <;> cases whole

/-- Some members report one sequence of events. -/
theorem ReportsMembers.unique {events' : List Event}
    (reports : ReportsMembers overlay members events)
    (reports' : ReportsMembers overlay members events') : events = events' := by
  induction members generalizing events events' with
  | nil => rw [reports.eq_nil, reports'.eq_nil]
  | cons member members ih =>
    rcases reports.of_cons with ⟨not, rfl⟩ | ⟨gives, others, behind, rfl⟩
    · rcases reports'.of_cons with ⟨-, rfl⟩ | ⟨gives, -⟩
      · rfl
      · exact absurd gives not
    · rcases reports'.of_cons with ⟨not, -⟩ | ⟨-, others', behind', rfl⟩
      · exact absurd gives not
      · rw [ih behind behind']

/-- The reading of some members reports their replacements as far as it comes. -/
theorem reportsMembers_columnsOf (overlay : Option Overlay) (members : Json.Members) :
    ReportsMembers overlay members (columnsOf overlay members).events := by
  induction members with
  | nil => exact .all nofun
  | cons member rest ih =>
    obtain ⟨key, v⟩ := member
    have own := columnOf_events overlay key v
    by_cases gives : GivesColumn overlay (key, v)
    · obtain ⟨column, read⟩ := givesColumn_iff.mp gives
      have reports := ReportsMembers.cons gives ih
      cases rest with
      | nil =>
        have nothing : (columnsOf overlay []).events = [] := rfl
        rw [columnsOf, events_bind_of_silent fun _ => rfl, own]
        rwa [nothing, List.append_nil] at reports
      | cons next rest =>
        rw [columnsOf, events_bind_of_ok read, own, events_bind_of_silent fun _ => rfl]
        exact reports
    · obtain ⟨placed, failed⟩ : ∃ placed, (columnOf overlay key v).outcome = .error placed := by
        cases read : (columnOf overlay key v).outcome with
        | error placed => exact ⟨placed, rfl⟩
        | ok column => exact absurd (givesColumn_iff.mpr ⟨column, read⟩) gives
      have reports := ReportsMembers.first gives rest
      rw [← own] at reports
      cases rest with
      | nil => rwa [columnsOf, events_bind_of_error failed]
      | cons next rest => rwa [columnsOf, events_bind_of_error failed]

/-! ## The events of a document -/

theorem reportSkipped_eq (overlay : Option Overlay) :
    reportSkipped overlay =
      ⟨if (overlay.getD []).isEmpty then [] else [.overlaySkipped], .ok ()⟩ := by
  rcases overlay with _ | ⟨⟩ | ⟨entry, rest⟩ <;> rfl

theorem ReportsDocument.refused_object {members : Json.Members}
    (noObject : typeWord? members ≠ some (.text "object"))
    (noGrouping : typeWord? members = none → ∀ inner, groupingMembers members ≠ .ok inner) :
    ReportsDocument overlay (.object members) [] := by
  apply ReportsDocument.refused
  intro others same
  cases same
  constructor
  · intro typed
    exact noObject (typeWord?_of_text typed)
  · intro both
    obtain ⟨untyped, inner, grouped⟩ := both
    exact noGrouping (typeWord?_eq_none_iff.mpr untyped) inner
      (groupingMembers_eq_ok_iff.mpr grouped)

/-- A document reports one sequence of events. -/
theorem ReportsDocument.unique {v : Json} {events' : List Event}
    (reports : ReportsDocument overlay v events) (reports' : ReportsDocument overlay v events') :
    events = events' := by
  cases reports with
  | grouping untyped grouped reports =>
    cases reports' with
    | grouping untyped' grouped' reports' =>
      have same := (groupingMembers_eq_ok_iff.mpr grouped).symm.trans
        (groupingMembers_eq_ok_iff.mpr grouped')
      cases same
      exact reports.unique reports'
    | object typed =>
      cases (typeWord?_of_text typed).symm.trans (typeWord?_eq_none_iff.mpr untyped)
    | refused noDocument => exact absurd ⟨untyped, _, grouped⟩ (noDocument _ rfl).2
  | object typed =>
    cases reports' with
    | grouping untyped =>
      cases (typeWord?_of_text typed).symm.trans (typeWord?_eq_none_iff.mpr untyped)
    | object => rfl
    | refused noDocument => exact absurd typed (noDocument _ rfl).1
  | refused noDocument =>
    cases reports' with
    | grouping untyped grouped => exact absurd ⟨untyped, _, grouped⟩ (noDocument _ rfl).2
    | object typed => exact absurd typed (noDocument _ rfl).1
    | refused => rfl

/-- The reading of a document reports what the document and the overlay tell. -/
theorem reportsDocument_recordOf (overlay : Option Overlay) (v : Json) :
    ReportsDocument overlay v (recordOf overlay v).events := by
  cases v with
  | object members =>
    cases word : typeWord? members with
    | none =>
      cases grouped : groupingMembers members with
      | error fault =>
        simp only [recordOf, word, grouped]
        apply ReportsDocument.refused_object
        · rw [word]
          exact (Option.some_ne_none _).symm
        · intro _ inner found
          cases grouped.symm.trans found
      | ok inner =>
        have own : (columnsOf overlay inner >>= fun fields =>
            (pure ⟨.implicit, fields⟩ : Traced PlacedFault Record)).events =
              (columnsOf overlay inner).events := events_bind_of_silent fun _ => rfl
        simp only [recordOf, word, grouped]
        change ReportsDocument overlay _ ([] ++ (columnsOf overlay inner >>= _).events)
        rw [List.nil_append, own]
        exact .grouping (typeWord?_eq_none_iff.mp word) (groupingMembers_eq_ok_iff.mp grouped)
          (reportsMembers_columnsOf overlay inner)
    | some value =>
      have noGrouping : typeWord? members = none → ∀ inner, groupingMembers members ≠ .ok inner :=
        fun untyped => absurd (word.symm.trans untyped) (Option.some_ne_none value)
      cases read : keywordOf value with
      | error fault =>
        simp only [recordOf, word, read]
        apply ReportsDocument.refused_object _ noGrouping
        intro typed
        cases word.symm.trans typed
        cases read
      | ok keyword =>
        have isObject : keywordOf (.text "object") = .ok .object := keywordOf_eq_ok_iff.mpr rfl
        cases keyword with
        | object =>
          obtain rfl := keywordOf_eq_ok_iff.mp read
          have silent : (Traced.ofExcept ((propertiesOf .object members).mapError (⟨[], ·⟩)) >>=
              fun properties => Traced.ofExcept (fieldsOf properties) >>= fun fields =>
                (pure ⟨.explicit, fields⟩ : Traced PlacedFault Record)).events = [] :=
            events_bind_of_silent fun _ => events_bind_of_silent fun _ => rfl
          simp only [recordOf, word, read, reportSkipped_eq]
          change ReportsDocument overlay _ (_ ++ (Traced.ofExcept _ >>= _).events)
          rw [silent, List.append_nil]
          exact .object (typeWord?_eq_some_iff.mp word).1
        | primitive | decimal | array | map | null =>
          simp only [recordOf, word, read]
          apply ReportsDocument.refused_object _ noGrouping
          intro typed
          cases word.symm.trans typed
          cases read.symm.trans isObject
  | null | bool | int | real | text | array =>
    apply ReportsDocument.refused
    intro _ same
    cases same

/-! ## The level of the events -/

theorem level_of_mem_appliedTo : ∀ event ∈ appliedTo overlay members, event.level = .debug := by
  intro event mem
  obtain ⟨member, -, applied⟩ := List.mem_filterMap.mp mem
  rw [applied?_eq] at applied
  split at applied
  · cases applied
    rfl
  · cases applied

/-- What a document reports is of the level debug. -/
theorem ReportsDocument.level_eq {v : Json} (reports : ReportsDocument overlay v events) :
    ∀ event ∈ events, event.level = .debug := by
  cases reports with
  | grouping _ _ reports =>
    cases reports with
    | all => exact level_of_mem_appliedTo
    | upTo => exact level_of_mem_appliedTo
  | object =>
    split
    · exact nofun
    · exact List.forall_mem_singleton.mpr rfl
  | refused => exact nofun

end Schema

/-! ## The events of compiling -/

variable {overlay : Option Overlay} {document : Document} {fs : FileSystem} {path : Path}
  {bytes : List UInt8} {v : Json}

namespace Document

theorem compile_events_of_not_loaded {failure : Failure} (failed : document.load = .error failure) :
    (document.compile overlay).events = [] := by
  have built : (document.buildRecord overlay).events = [] := by
    rw [buildRecord, failed]
    rfl
  have notBuilt : (document.buildRecord overlay).outcome = .error failure := by
    rw [buildRecord, failed]
    rfl
  rw [compile, events_bind_of_error notBuilt, built]

/-- A document that is loaded reports what its value tells, and then the number of its columns, if
it has any. -/
theorem compile_events_of_load (overlay : Option Overlay) (loaded : document.load = .ok v) :
    (∃ failure, (document.compile overlay).outcome = .error failure) ∧
        (document.compile overlay).events = (recordOf overlay v).events ∨
      ∃ t columns, (document.compile overlay).outcome = .ok t ∧
        (document.columns overlay).outcome = .ok columns ∧
        (document.compile overlay).events =
          (recordOf overlay v).events ++ [.columnsCompiled columns.length] := by
  have own : (document.buildRecord overlay).events = (recordOf overlay v).events := by
    rw [buildRecord, loaded]
    rfl
  rw [compile_outcome, columns_outcome]
  cases built : (document.buildRecord overlay).outcome with
  | error failure =>
    rw [compile, events_bind_of_error built, own]
    exact Or.inl ⟨⟨failure, rfl⟩, rfl⟩
  | ok r =>
    rw [compile, events_bind_of_ok built, own]
    refine Or.inr ⟨r.columnList, r.columns, rfl, rfl, ?_⟩
    rw [Record.columns, List.length_map]
    rfl

theorem level_of_mem_compile (overlay : Option Overlay) (document : Document) :
    ∀ event ∈ (document.compile overlay).events, event.level = .debug := by
  cases loaded : document.load with
  | error failure =>
    rw [compile_events_of_not_loaded loaded]
    exact nofun
  | ok v =>
    have reading := (reportsDocument_recordOf overlay v).level_eq
    rcases compile_events_of_load overlay loaded with ⟨-, events⟩ | ⟨t, columns, -, -, events⟩
    · rwa [events]
    · rw [events]
      exact List.forall_mem_append.mpr ⟨reading, List.forall_mem_singleton.mpr rfl⟩

end Document

theorem compileFile_events_of_read (read : fs.read path = .ok bytes) :
    (compileFile fs overlay path).events =
      .documentLoaded path.toText bytes.length :: ((Document.bytes bytes).compile overlay).events
    := by
  rw [compileFile, read]
  rfl

theorem compileFile_events_of_not_read {e : FileError} (failed : fs.read path = .error e) :
    (compileFile fs overlay path).events = [] := by
  rw [compileFile, failed]
  rfl

theorem level_of_mem_compileFile (fs : FileSystem) (overlay : Option Overlay) (path : Path) :
    ∀ event ∈ (compileFile fs overlay path).events, event.level = .debug := by
  cases read : fs.read path with
  | error e =>
    rw [compileFile_events_of_not_read read]
    exact nofun
  | ok bytes =>
    rw [compileFile_events_of_read read]
    exact List.forall_mem_cons.mpr ⟨rfl, Document.level_of_mem_compile overlay (.bytes bytes)⟩

/-- Compiling reports the replacements of a grouping up to its first faulty member, or that the
overlay is skipped for an explicit object, and the number of columns if there are any; a document
that is not loaded reports nothing, and a file that can be read reports its size first. These events
are written at the level `DEBUG` alone, and nothing else depends on the logging. -/
theorem events_tell_what_overlay_did (overlay : Option Overlay) (document : Document) :
    (∀ failure, document.load = .error failure → (document.compile overlay).events = []) ∧
    (∀ v, document.load = .ok v → ∃ reading,
      (∀ events, ReportsDocument overlay v events ↔ events = reading) ∧
      ((∃ failure, (document.compile overlay).outcome = .error failure) ∧
          (document.compile overlay).events = reading ∨
        ∃ t columns, (document.compile overlay).outcome = .ok t ∧
          (document.columns overlay).outcome = .ok columns ∧
          (document.compile overlay).events = reading ++ [.columnsCompiled columns.length])) ∧
    (∀ fs path bytes, fs.read path = .ok bytes →
      (compileFile fs overlay path).events =
        .documentLoaded path.toText bytes.length ::
          ((Document.bytes bytes).compile overlay).events) ∧
    (∀ fs path e, fs.read path = .error e → (compileFile fs overlay path).events = []) ∧
    (document.compile overlay).IsLoggedAtDebugAlone ∧
    ∀ fs path, (compileFile fs overlay path).IsLoggedAtDebugAlone := by
  refine ⟨fun _ failed => Document.compile_events_of_not_loaded failed, ?loaded,
    fun _ _ _ read => compileFile_events_of_read read,
    fun _ _ _ failed => compileFile_events_of_not_read failed,
    Traced.isLoggedAtDebugAlone (Document.level_of_mem_compile overlay document),
    fun fs path => Traced.isLoggedAtDebugAlone (level_of_mem_compileFile fs overlay path)⟩
  case loaded =>
    intro v loaded
    have reports := reportsDocument_recordOf overlay v
    refine ⟨(recordOf overlay v).events, fun events => ⟨fun others => others.unique reports, ?_⟩,
      Document.compile_events_of_load overlay loaded⟩
    intro same
    rwa [same]

theorem price_is_reported :
    ((Document.bytes oneColumnBytes).compile (some priceOverlay)).events =
        [.overlayApplied "id" "price", .columnsCompiled 1] ∧
      (compileFile oneColumnFiles (some priceOverlay) (.ofText "s")).events =
        [.documentLoaded "s" oneColumnBytes.length, .overlayApplied "id" "price",
          .columnsCompiled 1] ∧
      (compileFile oneColumnFiles (some priceOverlay) (.ofText "t")).events = [] ∧
      ∀ line, ((Document.bytes oneColumnBytes).compile (some priceOverlay)).under
        (some ⟨Level.info.severity, .json⟩) line = ([], .ok "price decimal(38,2)") := by
  obtain ⟨-, loaded, inFile, noFile, logged, -⟩ :=
    events_tell_what_overlay_did (some priceOverlay) (.bytes oneColumnBytes)
  have compiled : ((Document.bytes oneColumnBytes).compile (some priceOverlay)).outcome =
      .ok "price decimal(38,2)" := by
    rw [Document.compile_outcome, oneColumn_under_priceOverlay]
    rfl
  have listed : ((Document.bytes oneColumnBytes).columns (some priceOverlay)).outcome =
      .ok [⟨"price", "decimal(38,2)"⟩] := by
    rw [Document.columns_outcome, oneColumn_under_priceOverlay]
    rfl
  have events : ((Document.bytes oneColumnBytes).compile (some priceOverlay)).events =
      [.overlayApplied "id" "price", .columnsCompiled 1] := by
    obtain ⟨reading, told, ⟨⟨failure, failed⟩, -⟩ | ⟨t, columns, -, found, events⟩⟩ :=
      loaded oneColumn oneColumnBytes_loads
    · cases compiled.symm.trans failed
    · cases listed.symm.trans found
      have only : reading = [.overlayApplied "id" "price"] := by
        have reports := (told reading).mpr rfl
        rw [oneColumn] at reports
        cases reports with
        | grouping _ grouped members =>
          rcases grouped with found | ⟨-, rfl⟩
          · cases found
          · rcases members.of_cons with ⟨-, same⟩ | ⟨-, others, none, same⟩
            · exact same
            · rw [same, none.eq_nil]
              rfl
        | object typed => cases typed
        | refused noDocument =>
          exact absurd ⟨Or.inl rfl, _, Or.inr ⟨rfl, rfl⟩⟩ (noDocument _ rfl).2
      rw [events, only]
      rfl
  have read : oneColumnFiles.read (.ofText "s") = .ok oneColumnBytes := rfl
  have absent : oneColumnFiles.read (.ofText "t") = .error (.onPath .notFound (.ofText "t")) := rfl
  have info : Logging.ofNames "info" "json" = .ok ⟨Level.info.severity, .json⟩ := rfl
  refine ⟨events, ?_, noFile _ _ _ absent, fun line => ?_⟩
  · rw [inFile _ _ _ read, events]
    rfl
  · rw [logged.other _ _ _ line info (by decide), compiled]

end TableDdl
