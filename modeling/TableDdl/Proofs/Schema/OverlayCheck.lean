import TableDdl.Proofs.Json.Regular
import TableDdl.Proofs.Schema.FirstFault
import TableDdl.Proofs.Schema.Substitution

/-!
# The check of an overlay

The entries of an overlay are checked in order, all of them and before any document is read. The
check fails at the first entry that is no replacement (`Overlay.ofJson_object_eq_error_iff`). After
it has passed, a document is read as if the replacements stood in the document itself
(`recordOf_eq_recordOf_substituted`), and no reading comes upon a faulty entry. Before, each faulty
entry is come upon in the document that has the column of this entry alone (`recordOf_probe`).
-/

namespace TableDdl.Schema

open Json Outcome

/-- The test for a fault of an entry. -/
def Fault.IsOfEntry : Fault → Prop
  | .overlayEntry | .overlayDefinition => True
  | _ => False

theorem HasEntryFault.isOfEntry {entry : Json} {fault : Fault}
    (isFault : HasEntryFault entry fault) : fault.IsOfEntry := by
  cases isFault <;> trivial

theorem Fault.IsOfEntry.faultClass_eq {fault : Fault} (ofEntry : fault.IsOfEntry) :
    fault.faultClass = .malformedNode := by
  cases fault with
  | overlayEntry | overlayDefinition => rfl
  | _ => cases ofEntry

/-! ## The entries in order -/

namespace Overlay

/-- The test for an entry that replaces its column: an object with one member, whose value is an
object. -/
def IsReplacement (entry : Json) : Prop :=
  ∃ name inner, entry = .object [(name, .object inner)]

/-- `IsFirstBadEntry entries key e`: the first entry that is no replacement is the one for `key`,
and `e` reports its fault under this key. -/
def IsFirstBadEntry (entries : Overlay) (key : Text) (e : SchemaError) : Prop :=
  ∃ before entry after, entries = before ++ (key, entry) :: after ∧
    (∀ earlier ∈ before, IsReplacement earlier.2) ∧ HasEntryFault entry e.fault ∧
    e.path = some key

variable {entries rest : Overlay} {key : Text} {entry : Json} {e : SchemaError}

theorem entryOf_of_isReplacement (isReplacement : IsReplacement entry) :
    ∃ name inner, entryOf entry = .ok (name, .object inner) := by
  obtain ⟨name, inner, rfl⟩ := isReplacement
  exact ⟨name, inner, rfl⟩

theorem isReplacement_of_entryOf {replacement : Text × Json}
    (read : entryOf entry = .ok replacement) : IsReplacement entry := by
  obtain ⟨inner, same, -⟩ := entryOf_eq_ok_iff.mp read
  exact ⟨replacement.1, inner, same⟩

theorem resolve_of_get? (found : entries.get? key = some entry) :
    resolve (some entries) key = (some <$> entryOf entry).mapError (⟨·, some key⟩) := by
  rw [resolve, replacement?, Option.bind_some, found]

/-- The check of the first of some columns, whose entry is found. -/
theorem check_cons (found : entries.get? key = some entry) (keys : List Text) :
    check entries (key :: keys) =
      match entryOf entry with
      | .error fault => .error ⟨fault, some key⟩
      | .ok _ => check entries keys := by
  rw [check, resolve_of_get? found]
  cases entryOf entry <;> rfl

theorem not_isReplacement_iff : ¬ IsReplacement entry ↔ ∃ fault, HasEntryFault entry fault := by
  simp only [← entryOf_eq_error_iff]
  cases read : entryOf entry with
  | error fault =>
    apply iff_of_true _ ⟨fault, rfl⟩
    intro isReplacement
    obtain ⟨name, inner, read'⟩ := entryOf_of_isReplacement isReplacement
    exact absurd (read.symm.trans read') nofun
  | ok replacement =>
    apply iff_of_false (not_not_intro (isReplacement_of_entryOf read))
    exact nofun

theorem check_eq_ok_iff (found : ∀ member ∈ rest, entries.get? member.1 = some member.2) :
    check entries rest.keys = .ok () ↔ ∀ member ∈ rest, IsReplacement member.2 := by
  induction rest with
  | nil => exact iff_of_true rfl fun _ mem => absurd mem List.not_mem_nil
  | cons member rest ih =>
    obtain ⟨key, entry⟩ := member
    obtain ⟨first, others⟩ := List.forall_mem_cons.mp found
    rw [Members.keys, List.map_cons, check_cons first, List.forall_mem_cons, ← ih others]
    cases read : entryOf entry with
    | error fault =>
      have bad := not_isReplacement_iff.mpr ⟨fault, entryOf_eq_error_iff.mp read⟩
      apply iff_of_false _ fun both => bad both.1
      intro passed
      cases passed
    | ok replacement => exact (and_iff_right (isReplacement_of_entryOf read)).symm

/-- The first bad entry is the first entry, or it is the first bad one behind a replacement. -/
theorem isFirstBadEntry_cons_iff {member : Text × Json} :
    IsFirstBadEntry (member :: rest) key e ↔
      member.1 = key ∧ HasEntryFault member.2 e.fault ∧ e.path = some key ∨
        IsReplacement member.2 ∧ IsFirstBadEntry rest key e := by
  constructor
  · intro first
    obtain ⟨before, entry, after, split, good, bad, path⟩ := first
    cases before with
    | nil =>
      cases split
      exact Or.inl ⟨rfl, bad, path⟩
    | cons earlier before =>
      obtain ⟨same, split⟩ := List.cons.inj split
      obtain ⟨isReplacement, good⟩ := List.forall_mem_cons.mp good
      rw [same]
      exact Or.inr ⟨isReplacement, before, entry, after, split, good, bad, path⟩
  · intro h
    rcases h with ⟨rfl, bad, path⟩ | ⟨isReplacement, before, entry, after, rfl, good, bad, path⟩
    · exact ⟨[], member.2, rest, rfl, fun _ mem => absurd mem List.not_mem_nil, bad, path⟩
    · exact ⟨member :: before, entry, after, rfl, List.forall_mem_cons.mpr ⟨isReplacement, good⟩,
        bad, path⟩

theorem check_eq_error_iff (found : ∀ member ∈ rest, entries.get? member.1 = some member.2) :
    check entries rest.keys = .error e ↔ ∃ key, IsFirstBadEntry rest key e := by
  induction rest with
  | nil =>
    apply iff_of_false nofun
    intro h
    obtain ⟨key, before, entry, after, split, -⟩ := h
    cases before <;> cases split
  | cons member rest ih =>
    obtain ⟨key, entry⟩ := member
    obtain ⟨first, others⟩ := List.forall_mem_cons.mp found
    rw [Members.keys, List.map_cons, check_cons first]
    simp only [isFirstBadEntry_cons_iff]
    cases read : entryOf entry with
    | error fault =>
      have bad := entryOf_eq_error_iff.mp read
      have noReplacement := not_isReplacement_iff.mpr ⟨fault, bad⟩
      simp only [noReplacement, false_and, or_false, exists_eq_left']
      constructor
      · intro same
        cases same
        exact ⟨bad, rfl⟩
      · intro h
        obtain ⟨bad', path⟩ := h
        obtain ⟨fault', path'⟩ := e
        cases path
        cases read.symm.trans (entryOf_eq_error_iff.mpr bad')
        rfl
    | ok replacement =>
      have good := isReplacement_of_entryOf read
      have notBad : ∀ fault, ¬ HasEntryFault entry fault := fun fault bad =>
        not_isReplacement_iff.mpr ⟨fault, bad⟩ good
      simp only [notBad, false_and, and_false, false_or, good, true_and]
      exact ih others

/-- An object is taken as an overlay exactly if all of its entries are replacements. -/
theorem ofJson_object_eq_ok_iff (distinct : entries.keys.Nodup) {result : Option Overlay} :
    ofJson (.object entries) = .ok result ↔
      (∀ entry ∈ entries, IsReplacement entry.2) ∧ result = some entries := by
  have found : ∀ member ∈ entries, entries.get? member.1 = some member.2 :=
    fun _ mem => Members.get?_of_mem distinct mem
  rw [ofJson, map_eq_ok_iff, ← check_eq_ok_iff found]
  constructor
  · intro h
    obtain ⟨⟨⟩, passed, same⟩ := h
    exact ⟨passed, same.symm⟩
  · intro h
    obtain ⟨passed, same⟩ := h
    exact ⟨(), passed, same.symm⟩

/-- An object is refused as an overlay because of its first bad entry. -/
theorem ofJson_object_eq_error_iff (distinct : entries.keys.Nodup) :
    ofJson (.object entries) = .error e ↔ ∃ key, IsFirstBadEntry entries key e := by
  rw [ofJson, map_eq_error_iff]
  exact check_eq_error_iff fun _ mem => Members.get?_of_mem distinct mem

/-- The first bad entry is refused when it is looked up, too. -/
theorem resolve_of_isFirstBadEntry (distinct : entries.keys.Nodup)
    (first : IsFirstBadEntry entries key e) : resolve (some entries) key = .error e := by
  obtain ⟨before, entry, after, rfl, -, bad, path⟩ := first
  obtain ⟨fault, path'⟩ := e
  have mem : (key, entry) ∈ before ++ (key, entry) :: after :=
    List.mem_append_right _ List.mem_cons_self
  rw [resolve_of_get? (Members.get?_of_mem distinct mem), entryOf_eq_error_iff.mpr bad]
  cases path
  rfl

end Overlay

/-! ## Documents under a checked overlay -/

/-- What is read in the place of a member: the replacement of its column, or the member itself. -/
def Overlay.inPlaceOf (overlay : Option Overlay) (member : Text × Json) : Text × Json :=
  (Overlay.substitute? overlay member).getD member

/-- A document with the replacements of an overlay in it. A grouping alone has columns that are
replaced. -/
def substituted (overlay : Option Overlay) : Json → Json
  | .object members =>
    match typeWord? members, groupingMembers members with
    | none, .ok inner => .object [("properties", .object (inner.map (Overlay.inPlaceOf overlay)))]
    | _, _ => .object members
  | value => value

/-- All entries of an overlay are replacements. -/
def Overlay.IsChecked (overlay : Option Overlay) : Prop :=
  ∀ entries, overlay = some entries → ∀ entry ∈ entries, Overlay.IsReplacement entry.2

section Checked

variable {overlay : Option Overlay} (checked : Overlay.IsChecked overlay)

include checked

theorem isReplacement_of_checked {key : Text} {entry : Json}
    (found : overlay.bind (·.get? key) = some entry) : Overlay.IsReplacement entry := by
  obtain ⟨entries, present, found⟩ := Option.bind_eq_some_iff.mp found
  exact checked entries present (key, entry) (Members.mem_of_get? found)

theorem columnOf_inPlaceOf (member : Text × Json) :
    (columnOf overlay member.1 member.2).outcome =
      (columnOf none (Overlay.inPlaceOf overlay member).1
        (Overlay.inPlaceOf overlay member).2).outcome := by
  rw [columnOf_outcome, columnOf_outcome]
  cases found : overlay.bind (·.get? member.1) with
  | none =>
    have kept : Overlay.inPlaceOf overlay member = member := by
      rw [Overlay.inPlaceOf, Overlay.substitute?, Overlay.entry?, found]
      rfl
    rw [kept, Overlay.replacement?, found]
    rfl
  | some entry =>
    obtain ⟨name, inner, rfl⟩ := isReplacement_of_checked checked found
    have replaced : Overlay.inPlaceOf overlay member = (name, .object inner) := by
      rw [Overlay.inPlaceOf, Overlay.substitute?, Overlay.entry?, found]
      rfl
    rw [replaced, Overlay.replacement?, found]
    rfl

theorem columnsOf_map_inPlaceOf (members : Json.Members) :
    (columnsOf overlay members).outcome =
      (columnsOf none (members.map (Overlay.inPlaceOf overlay))).outcome := by
  induction members with
  | nil => rfl
  | cons member rest ih =>
    have first := columnOf_inPlaceOf checked member
    cases rest with
    | nil =>
      rw [columnsOf_outcome_singleton, first]
      exact (columnsOf_outcome_singleton none _ _).symm
    | cons next rest =>
      rw [columnsOf_outcome_cons, first, ih]
      exact (columnsOf_outcome_cons none _ _ _ _).symm

/-- Under a checked overlay a document is read as if the replacements stood in it. -/
theorem recordOf_eq_recordOf_substituted (v : Json) :
    (recordOf overlay v).outcome = (recordOf none (substituted overlay v)).outcome := by
  cases v with
  | object members =>
    cases word : typeWord? members with
    | none =>
      have untyped := typeWord?_eq_none_iff.mp word
      cases grouped : groupingMembers members with
      | error fault =>
        simp only [substituted, word, grouped, recordOf_outcome_of_untyped untyped, groupingOf]
        rfl
      | ok inner =>
        have typeless : IsUntyped
            [("properties", .object (inner.map (Overlay.inPlaceOf overlay)))] := Or.inl rfl
        have sameInner : groupingMembers
            [("properties", .object (inner.map (Overlay.inPlaceOf overlay)))] =
              .ok (inner.map (Overlay.inPlaceOf overlay)) := rfl
        simp only [substituted, word, grouped, recordOf_outcome_of_untyped untyped,
          recordOf_outcome_of_untyped typeless, groupingOf, sameInner, mapError_ok, ok_bind,
          columnsOf_map_inPlaceOf checked inner]
    | some value =>
      simp only [substituted, word]
      cases read : keywordOf value with
      | error fault => simp only [recordOf, word, read]
      | ok keyword =>
        cases keyword with
        | object =>
          obtain rfl := keywordOf_eq_ok_iff.mp read
          have typed := (typeWord?_eq_some_iff.mp word).1
          rw [recordOf_outcome_of_object typed, recordOf_outcome_of_object typed]
        | primitive | decimal | array | map | null => simp only [recordOf, word, read]
  | null | bool | int | real | text | array => rfl

end Checked

/-! ## Readings without an overlay -/

theorem ParameterFault.not_isOfEntry {parameter : Parameter} {value : Json} {fault : Fault}
    (isFault : ParameterFault parameter value fault) : ¬ fault.IsOfEntry := by
  cases isFault <;> exact id

/-- A definition has no fault of an entry. -/
theorem HasFault.not_isOfEntry {v : Json} {fault : Fault} (isFault : HasFault v fault) :
    ¬ fault.IsOfEntry := by
  cases isFault with
  | keyword _ isFault =>
    cases isFault with
    | decimal isFault =>
      cases isFault with
      | precision _ _ _ isFault => exact isFault.not_isOfEntry
      | scale _ _ _ _ isFault => exact isFault.not_isOfEntry
      | properties | noPrecision | noScale => exact id
    | map isFault => cases isFault <;> exact id
    | array | object | null => exact id
  | notObject | unknownValue | unknownWord | groupingProperties | groupingEmpty => exact id

/-- The walk through a definition visits definitions alone. -/
theorem definition_of_mem_definitionVisits {v : Json} :
    ∀ placed ∈ definitionVisits v, ∃ w, placed.2 = .definition w := by
  induction v using induction_on_parts with
  | step v ih =>
    rw [definitionVisits_eq]
    refine List.forall_mem_cons.mpr ⟨⟨v, rfl⟩, fun placed mem => ?_⟩
    obtain ⟨part, partMem, mem⟩ := List.mem_flatMap.mp mem
    obtain ⟨inside, insideMem, rfl⟩ := List.mem_map.mp mem
    exact ih part partMem inside insideMem

theorem definition_of_mem_documentVisits {v : Json} :
    ∀ placed ∈ documentVisits none v, ∃ w, placed.2 = .definition w := by
  unfold documentVisits
  split
  · split
    iterate 2
      refine List.forall_mem_cons.mpr ⟨⟨_, rfl⟩, fun placed mem => ?_⟩
      obtain ⟨member, memberMem, mem⟩ := List.mem_flatMap.mp mem
      obtain ⟨inside, insideMem, rfl⟩ := List.mem_map.mp mem
      exact definition_of_mem_definitionVisits inside insideMem
    exact definition_of_mem_definitionVisits
  · exact definition_of_mem_definitionVisits

/-- Without an overlay no entry is at fault. -/
theorem not_isOfEntry_of_recordOf_none {v : Json} {e : SchemaError}
    (failed : (recordOf none v).outcome = .error e) : ¬ e.fault.IsOfEntry := by
  rcases (recordOf_outcome_eq_error_iff none v e).mp failed with
    ⟨root, -⟩ | ⟨-, steps, visit, ⟨before, after, split, -, isFault⟩, -⟩
  · obtain ⟨fault, path⟩ := e
    cases root <;> exact id
  · have visited : (steps, visit) ∈ documentVisits none v := by
      rw [split]
      exact List.mem_append_right _ List.mem_cons_self
    obtain ⟨w, same⟩ := definition_of_mem_documentVisits _ visited
    cases same
    exact HasFault.not_isOfEntry isFault

/-! ## The document of one column -/

/-- The document whose one column has a key and is a text. -/
def probe (key : Text) : Json :=
  .object [("properties", .object [(key, .object [("type", .text "string")])])]

/-- A bad entry is come upon in the document of its column, with the error that the check gives. -/
theorem recordOf_probe {overlay : Option Overlay} {key : Text} {e : SchemaError}
    (refused : Overlay.resolve overlay key = .error e) :
    (recordOf overlay (probe key)).outcome = .error e := by
  have grouped : groupingMembers
      [("properties", .object [(key, .object [("type", .text "string")])])] =
        .ok [(key, .object [("type", .text "string")])] := rfl
  rw [probe, recordOf_outcome_of_untyped (Or.inl rfl), groupingOf, grouped, mapError_ok, ok_bind,
    columnsOf_outcome_singleton, columnOf_outcome]
  rw [Overlay.resolve] at refused
  cases read : Overlay.replacement? overlay key with
  | error fault =>
    rw [read] at refused
    cases refused
    rfl
  | ok replacement =>
    rw [read] at refused
    cases refused

end TableDdl.Schema
