import Mathlib.Data.List.Forall2
import TableDdl.Column.List
import TableDdl.Proofs.Schema.Grammar

/-!
# What an overlay changes

An overlay puts columns in the place of columns of a grouping, and does nothing else.
`Overlay.substitute?` says which column it puts in the place of a member. The reading of a grouping
is then the reading of the substituted definitions, one by one and without the overlay: the overlay
does not reach into a definition, entries for other keys do not matter, and what an entry does to
its own column does not show in any other one.
-/

namespace TableDdl.Schema

open Outcome

/-! ## The column in the place of a member -/

/-- The entry of an overlay for a column, if there is one. -/
def Overlay.entry? (overlay : Option Overlay) (key : Text) : Option Json :=
  overlay.bind (·.get? key)

/-- The column that stands in the place of a member of a grouping: the single pair of the entry for
its key, or the member itself if there is no entry. An entry that is not a single pair gives
none. -/
def Overlay.substitute? (overlay : Option Overlay) (member : Text × Json) : Option (Text × Json) :=
  match Overlay.entry? overlay member.1 with
  | none => some member
  | some (.object [column]) => some column
  | some _ => none

/-- `IsColumn overlay member field`: what stands in the place of the member has the name of the
field, and its definition is read, without any overlay, as the type of the field. -/
def IsColumn (overlay : Option Overlay) (member : Text × Json) (field : Text × FieldType) : Prop :=
  ∃ definition, Overlay.substitute? overlay member = some (field.1, definition) ∧
    typeOf definition = .ok field.2

theorem substitute?_of_replaces {overlay : Option Overlay} {key name : Text} {v v' : Json}
    (replaces : Replaces overlay key v name v') :
    Overlay.substitute? overlay (key, v) = some (name, v') := by
  cases replaces with
  | kept absent => simp only [Overlay.substitute?, Overlay.entry?, absent]
  | replaced found => simp only [Overlay.substitute?, Overlay.entry?, found]

/-- A pair whose second part is no object is no replacement; the reading refuses it either way. -/
theorem replaces_of_substitute? {overlay : Option Overlay} {key name : Text} {v v' : Json}
    {t : FieldType} (substituted : Overlay.substitute? overlay (key, v) = some (name, v'))
    (described : Describes v' t) : Replaces overlay key v name v' := by
  unfold Overlay.substitute? Overlay.entry? at substituted
  split at substituted
  · rename_i absent
    cases substituted
    exact .kept absent
  · rename_i column found
    cases substituted
    cases described <;> exact .replaced found
  · cases substituted

theorem isColumn_iff {overlay : Option Overlay} {member : Text × Json}
    {field : Text × FieldType} :
    IsColumn overlay member field ↔
      ∃ v', Replaces overlay member.1 member.2 field.1 v' ∧ Describes v' field.2 := by
  refine exists_congr fun v' => ?_
  rw [typeOf_eq_ok_iff]
  constructor
  · rintro ⟨substituted, described⟩
    exact ⟨replaces_of_substitute? substituted described, described⟩
  · rintro ⟨replaces, described⟩
    exact ⟨substitute?_of_replaces replaces, described⟩

/-- A member has at most one column, and the entry for its key decides which. -/
theorem IsColumn.unique {overlay overlay' : Option Overlay} {member : Text × Json}
    {field field' : Text × FieldType}
    (same : Overlay.entry? overlay member.1 = Overlay.entry? overlay' member.1)
    (column : IsColumn overlay member field) (column' : IsColumn overlay' member field') :
    field = field' := by
  obtain ⟨definition, substituted, read⟩ := column
  obtain ⟨definition', substituted', read'⟩ := column'
  rw [Overlay.substitute?, same, ← Overlay.substitute?, substituted'] at substituted
  have eq : (field'.1, definition') = (field.1, definition) := Option.some.inj substituted
  obtain ⟨names, rfl⟩ := Prod.mk.inj eq
  exact Prod.ext names.symm (Except.ok.inj (read.symm.trans read'))

/-! ## The columns of a grouping -/

theorem describesColumns_iff {overlay : Option Overlay} {members : Json.Members} {fields : Fields} :
    DescribesColumns overlay members fields ↔
      List.Forall₂ (IsColumn overlay) members fields.toList := by
  constructor
  · intro describes
    induction describes with
    | last replaces described =>
      exact .cons (isColumn_iff.mpr ⟨_, replaces, described⟩) .nil
    | more replaces described _ ih => exact .cons (isColumn_iff.mpr ⟨_, replaces, described⟩) ih
  · intro all
    induction members generalizing fields with
    | nil => exact absurd (List.forall₂_nil_left_iff.mp all) (Fields.toList_ne_nil fields)
    | cons member rest ih =>
      cases fields with
      | last name t =>
        obtain ⟨column, others⟩ := List.forall₂_cons.mp all
        obtain rfl := List.forall₂_nil_right_iff.mp others
        obtain ⟨v', replaces, described⟩ := isColumn_iff.mp column
        exact .last replaces described
      | more name t others =>
        obtain ⟨column, all⟩ := List.forall₂_cons.mp all
        obtain ⟨v', replaces, described⟩ := isColumn_iff.mp column
        exact .more replaces described (ih all)

/-- Every list of fields with at least one of them is that of some fields. -/
theorem exists_toList_eq {list : List (Text × FieldType)} (nonempty : list ≠ []) :
    ∃ fields : Fields, fields.toList = list := by
  cases list with
  | nil => exact absurd rfl nonempty
  | cons field rest => exact ⟨Fields.ofCons field.1 field.2 rest, Fields.toList_ofCons ..⟩

theorem exists_forall₂_iff {overlay : Option Overlay} {members : Json.Members} :
    (∃ list, List.Forall₂ (IsColumn overlay) members list) ↔
      ∀ member ∈ members, ∃ field, IsColumn overlay member field := by
  constructor
  · rintro ⟨list, all⟩
    induction all with
    | nil => exact fun _ mem => absurd mem List.not_mem_nil
    | cons column _ ih => exact List.forall_mem_cons.mpr ⟨⟨_, column⟩, ih⟩
  · intro each
    induction members with
    | nil => exact ⟨[], .nil⟩
    | cons member rest ih =>
      obtain ⟨field, column⟩ := each member List.mem_cons_self
      obtain ⟨list, all⟩ := ih fun other mem => each other (List.mem_cons_of_mem _ mem)
      exact ⟨field :: list, .cons column all⟩

/-! ## Overlays with the same entries -/

section SameEntries

variable {overlay overlay' : Option Overlay}

theorem columnOf_congr {key : Text}
    (same : Overlay.entry? overlay key = Overlay.entry? overlay' key) (v : Json) :
    columnOf overlay key v = columnOf overlay' key v := by
  have replacements : Overlay.replacement? overlay key = Overlay.replacement? overlay' key := by
    rw [Overlay.replacement?, ← Overlay.entry?, same]
    rfl
  rw [columnOf, replacements, columnOf]

/-- The columns of a grouping depend on the entries for its own keys alone. -/
theorem columnsOf_congr {members : Json.Members}
    (same : ∀ key ∈ members.keys, Overlay.entry? overlay key = Overlay.entry? overlay' key) :
    columnsOf overlay members = columnsOf overlay' members := by
  induction members with
  | nil => rfl
  | cons member rest ih =>
    obtain ⟨key, v⟩ := member
    have first := columnOf_congr (same key List.mem_cons_self) v
    have others := ih fun key mem => same key (List.mem_cons_of_mem _ mem)
    cases rest with
    | nil => rw [columnsOf, columnsOf, first]
    | cons next rest => rw [columnsOf, columnsOf, first, others]

/-- A column in the same place is the same, if the entry for its member is. -/
theorem getElem?_eq_of_forall₂ {members : Json.Members} {list list' : List (Text × FieldType)}
    (all : List.Forall₂ (IsColumn overlay) members list)
    (all' : List.Forall₂ (IsColumn overlay') members list') {i : Nat}
    (same : ∀ key, members.keys[i]? = some key →
      Overlay.entry? overlay key = Overlay.entry? overlay' key) : list[i]? = list'[i]? := by
  induction all generalizing list' i with
  | nil => rw [List.forall₂_nil_left_iff.mp all']
  | cons column _ ih =>
    obtain ⟨field', rest', column', others', rfl⟩ := List.forall₂_cons_left_iff.mp all'
    cases i with
    | zero => exact congrArg some (IsColumn.unique (same _ rfl) column column')
    | succ i => exact ih others' same

end SameEntries

/-! ## The reading of a grouping under an overlay -/

section Grouping

variable {members inner : Json.Members} (untyped : IsUntyped members)
  (grouped : IsGroupingOf members inner)

include untyped grouped

/-- A grouping is read member by member. -/
theorem grouping_outcome_eq_ok_iff {overlay : Option Overlay} {r : Record} :
    (recordOf overlay (.object members)).outcome = .ok r ↔
      r.form = .implicit ∧ List.Forall₂ (IsColumn overlay) inner r.fields.toList := by
  rw [recordOf_outcome_of_untyped untyped, mapError_eq_ok_iff, groupingOf_eq_ok_iff]
  constructor
  · rintro ⟨inner', fields, grouped', describes, rfl⟩
    have same : inner = inner' := Except.ok.inj <|
      (groupingMembers_eq_ok_iff.mpr grouped).symm.trans (groupingMembers_eq_ok_iff.mpr grouped')
    rw [same]
    exact ⟨rfl, describesColumns_iff.mp describes⟩
  · rintro ⟨form, all⟩
    obtain ⟨_, fields⟩ := r
    obtain rfl := form
    exact ⟨inner, fields, grouped, describesColumns_iff.mpr all, rfl⟩

/-- A grouping is accepted exactly if something stands in the place of each member and its
definition is accepted by itself. -/
theorem grouping_accepted_iff {overlay : Option Overlay} (nonempty : inner ≠ []) :
    (∃ r, (recordOf overlay (.object members)).outcome = .ok r) ↔
      ∀ member ∈ inner, ∃ field, IsColumn overlay member field := by
  rw [← exists_forall₂_iff]
  simp only [grouping_outcome_eq_ok_iff untyped grouped]
  constructor
  · rintro ⟨r, -, all⟩
    exact ⟨r.fields.toList, all⟩
  · rintro ⟨list, all⟩
    have some_field : list ≠ [] := by
      rintro rfl
      exact nonempty (List.forall₂_nil_right_iff.mp all)
    obtain ⟨fields, rfl⟩ := exists_toList_eq some_field
    exact ⟨⟨.implicit, fields⟩, rfl, all⟩

/-- A grouping is read alike, reports included, under overlays with the same entries for its
keys. -/
theorem recordOf_congr {overlay overlay' : Option Overlay}
    (same : ∀ key ∈ inner.keys, Overlay.entry? overlay key = Overlay.entry? overlay' key) :
    recordOf overlay (.object members) = recordOf overlay' (.object members) := by
  have found : groupingMembers members = .ok inner := groupingMembers_eq_ok_iff.mpr grouped
  simp only [recordOf, typeWord?_eq_none_iff.mpr untyped, found]
  show Traced.mapError _ (columnsOf overlay inner >>= _) =
    Traced.mapError _ (columnsOf overlay' inner >>= _)
  rw [columnsOf_congr same]

/-- The columns of two readings agree wherever the entries do. -/
theorem grouping_columns_getElem? {overlay overlay' : Option Overlay} {r r' : Record}
    (read : (recordOf overlay (.object members)).outcome = .ok r)
    (read' : (recordOf overlay' (.object members)).outcome = .ok r') {i : Nat}
    (same : ∀ key, inner.keys[i]? = some key →
      Overlay.entry? overlay key = Overlay.entry? overlay' key) :
    r.columns[i]? = r'.columns[i]? := by
  have all := ((grouping_outcome_eq_ok_iff untyped grouped).mp read).2
  have all' := ((grouping_outcome_eq_ok_iff untyped grouped).mp read').2
  rw [Record.columns, Record.columns, List.getElem?_map, List.getElem?_map,
    getElem?_eq_of_forall₂ all all' same]

end Grouping

/-- An overlay does nothing to an explicit object. A grouping with at least one member is accepted
under an overlay exactly if something stands in the place of each member and the definition of it is
accepted without an overlay; its fields are then these columns in the order of the members. Only the
entries for the keys of the members matter. If two overlays differ in the entry of one member alone,
no other column differs. -/
theorem overlay_substitutes_columns :
    (∀ (overlay : Option Overlay) (members : Json.Members),
      members.get? "type" = some (.text "object") →
        (recordOf overlay (.object members)).outcome = (recordOf none (.object members)).outcome) ∧
    ∀ members inner : Json.Members, IsUntyped members → IsGroupingOf members inner → inner ≠ [] →
      (∀ overlay : Option Overlay,
        ((∃ r, (recordOf overlay (.object members)).outcome = .ok r) ↔
          ∀ member ∈ inner, ∃ name definition t,
            Overlay.substitute? overlay member = some (name, definition) ∧
              typeOf definition = .ok t) ∧
        ∀ r, (recordOf overlay (.object members)).outcome = .ok r ↔
          r.form = .implicit ∧ List.Forall₂ (IsColumn overlay) inner r.fields.toList) ∧
      ∀ overlay overlay' : Option Overlay,
        ((∀ key ∈ inner.keys, Overlay.entry? overlay key = Overlay.entry? overlay' key) →
          recordOf overlay (.object members) = recordOf overlay' (.object members)) ∧
        ∀ (j : Nat) (r r' : Record),
          (∀ i ≠ j, ∀ key, inner.keys[i]? = some key →
            Overlay.entry? overlay key = Overlay.entry? overlay' key) →
          (recordOf overlay (.object members)).outcome = .ok r →
          (recordOf overlay' (.object members)).outcome = .ok r' →
            r.form = r'.form ∧ ∀ i ≠ j, r.columns[i]? = r'.columns[i]? := by
  refine ⟨?explicit, ?grouping⟩
  case explicit =>
    intro overlay members typed
    rw [recordOf_outcome_of_object typed, recordOf_outcome_of_object typed]
  case grouping =>
    intro members inner untyped grouped nonempty
    refine ⟨fun overlay => ⟨?_, fun r => grouping_outcome_eq_ok_iff untyped grouped⟩,
      fun overlay overlay' => ⟨recordOf_congr untyped grouped, ?_⟩⟩
    · rw [grouping_accepted_iff untyped grouped nonempty]
      refine forall₂_congr fun member _ => ?_
      constructor
      · rintro ⟨⟨name, t⟩, definition, substituted, read⟩
        exact ⟨name, definition, t, substituted, read⟩
      · rintro ⟨name, definition, t, substituted, read⟩
        exact ⟨(name, t), definition, substituted, read⟩
    · intro j r r' same read read'
      have form := ((grouping_outcome_eq_ok_iff untyped grouped).mp read).1
      have form' := ((grouping_outcome_eq_ok_iff untyped grouped).mp read').1
      exact ⟨form.trans form'.symm, fun i other =>
        grouping_columns_getElem? untyped grouped read read' (same i other)⟩

/-! ## A document under two overlays -/

/-- A grouping whose column `id` is replaced by overlays, and that has a field of this name also
inside of another column. -/
def nestedNames : Json.Members :=
  [("id", .object [("type", .text "string")]),
    ("other", .object [("id", .object [("type", .text "date")])])]

/-- An overlay that renames the column `id` and has a faulty entry for a column that is not
there. -/
def idRenamed : Overlay :=
  [("id", .object [("key", .object [("type", .text "long")])]), ("absent", .null)]

/-- The fields that a document with nested names has under the overlay. -/
def renamedFields : Fields :=
  .more "key" (.primitive .long) (.last "other" (.record .implicit (.last "id" (.primitive .date))))

/-- The fields that it has without the overlay. -/
def nestedFields : Fields :=
  .more "id" (.primitive .string)
    (.last "other" (.record .implicit (.last "id" (.primitive .date))))

theorem nestedNames_under_idRenamed :
    (recordOf (some idRenamed) (.object nestedNames)).outcome = .ok ⟨.implicit, renamedFields⟩ ∧
      (recordOf none (.object nestedNames)).outcome = .ok ⟨.implicit, nestedFields⟩ ∧
      (recordOf (some idRenamed) (.object (("type", .text "object") :: nestedNames))).outcome =
        (recordOf none (.object (("type", .text "object") :: nestedNames))).outcome ∧
      recordOf (some idRenamed) (.object nestedNames) =
        recordOf (some (idRenamed.take 1)) (.object nestedNames) ∧
      ∀ i ≠ 0, (Record.columns ⟨.implicit, renamedFields⟩)[i]? =
        (Record.columns ⟨.implicit, nestedFields⟩)[i]? := by
  have untyped : IsUntyped nestedNames := Or.inl rfl
  have grouped : IsGroupingOf nestedNames nestedNames := Or.inr ⟨rfl, rfl⟩
  have nonempty : nestedNames ≠ [] := List.cons_ne_nil _ _
  obtain ⟨accepted, compared⟩ :=
    overlay_substitutes_columns.2 nestedNames nestedNames untyped grouped nonempty
  have primitive (kind : Primitive) :
      typeOf (.object [("type", .text kind.word)]) = .ok (.primitive kind) :=
    typeOf_eq_ok_iff.mpr (.primitive rfl)
  have other : typeOf (.object [("id", .object [("type", .text "date")])]) =
      .ok (.record .implicit (.last "id" (.primitive .date))) :=
    typeOf_eq_ok_iff.mpr (.grouping (Or.inl rfl) (Or.inr ⟨rfl, rfl⟩) (.last (.primitive rfl)))
  have renamed := ((accepted (some idRenamed)).2 ⟨.implicit, renamedFields⟩).mpr
    ⟨rfl, .cons ⟨_, rfl, primitive .long⟩ (.cons ⟨_, rfl, other⟩ .nil)⟩
  have kept := ((accepted none).2 ⟨.implicit, nestedFields⟩).mpr
    ⟨rfl, .cons ⟨_, rfl, primitive .string⟩ (.cons ⟨_, rfl, other⟩ .nil)⟩
  have unused : ∀ key ∈ nestedNames.keys, Overlay.entry? (some idRenamed) key =
      Overlay.entry? (some (idRenamed.take 1)) key :=
    List.forall_mem_cons.mpr ⟨rfl, List.forall_mem_singleton.mpr rfl⟩
  refine ⟨renamed, kept, overlay_substitutes_columns.1 (some idRenamed) _ rfl,
    (compared (some idRenamed) (some (idRenamed.take 1))).1 unused,
    ((compared (some idRenamed) none).2 0 _ _ ?_ renamed kept).2⟩
  intro i positive key found
  have only : i = 1 := by
    have inside : i < 2 := (List.getElem?_eq_some_iff.mp found).1
    omega
  subst only
  cases found
  rfl

end TableDdl.Schema
